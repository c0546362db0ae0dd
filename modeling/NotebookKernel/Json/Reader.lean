import NotebookKernel.Json.Number
import NotebookKernel.Text.Blank
import NotebookKernel.Text.Utf8

/-!
Reading JSON text.

The reader works on the characters that are left and gives back what follows the value it read.
Objects keep their fields as they stand in the text; `parse` then sorts them, so that of two fields
with one name the later counts.
-/

namespace NotebookKernel.Json

/-- The white space that may stand between tokens. -/
def isSpace (c : Char) : Bool :=
  c = ' ' || c = '\n' || c = '\t' || c = '\r'

/-- Without the white space in front. -/
def skipSpace (cs : List Char) : List Char :=
  cs.dropWhile isSpace

/-- The value of four hexadecimal digits. -/
def hex4? (a b c d : Char) : Option Nat :=
  match Numeral.hexDigit? a, Numeral.hexDigit? b, Numeral.hexDigit? c, Numeral.hexDigit? d with
  | some a, some b, some c, some d => some (a * 0x1000 + b * 0x100 + c * 0x10 + d)
  | _, _, _, _ => none

/-- The characters that a backslash and one letter stand for. -/
def unescape? (c : Char) : Option Char :=
  if c = '"' ∨ c = '\\' ∨ c = '/' then some c
  else if c = 'n' then some '\n'
  else if c = 'r' then some '\r'
  else if c = 't' then some '\t'
  else if c = 'b' then some '\x08'
  else if c = 'f' then some '\x0c'
  else none

/-- A text after its opening quote, up to and with its closing one. A character outside the basic
plane may be escaped as a pair of surrogates; a lone surrogate is refused. -/
def readText : List Char → Option (List Char × List Char)
  | [] => none
  | c :: cs =>
    if c = '"' then some ([], cs)
    else if c = '\\' then
      match cs with
      | [] => none
      | e :: cs =>
        if e = 'u' then
          match cs with
          | h₁ :: h₂ :: h₃ :: h₄ :: cs =>
            match hex4? h₁ h₂ h₃ h₄ with
            | none => none
            | some n =>
              if 0xDC00 ≤ n ∧ n ≤ 0xDFFF then none
              else if 0xD800 ≤ n ∧ n ≤ 0xDBFF then
                match cs with
                | '\\' :: 'u' :: l₁ :: l₂ :: l₃ :: l₄ :: cs =>
                  match hex4? l₁ l₂ l₃ l₄ with
                  | none => none
                  | some m =>
                    if 0xDC00 ≤ m ∧ m ≤ 0xDFFF then
                      (readText cs).map fun r =>
                        (Char.ofNat (0x10000 + (n - 0xD800) * 0x400 + (m - 0xDC00)) :: r.1, r.2)
                    else none
                | _ => none
              else (readText cs).map fun r => (Char.ofNat n :: r.1, r.2)
          | _ => none
        else
          match unescape? e with
          | some d => (readText cs).map fun r => (d :: r.1, r.2)
          | none => none
    else if c.toNat < 0x20 then none
    else (readText cs).map fun r => (c :: r.1, r.2)

mutual

/-- A value at the start of a text, and what follows it. Arrays and objects may be nested `depth`
levels deep; `fuel` is at least the length of the text. -/
def readValue : (fuel depth : Nat) → List Char → Option (Json × List Char)
  | 0, _, _ => none
  | fuel + 1, depth, cs =>
    match skipSpace cs with
    | '"' :: rest => (readText rest).map fun r => (str (String.ofList r.1), r.2)
    | '[' :: rest =>
      match depth with
      | 0 => none
      | depth + 1 =>
        match skipSpace rest with
        | ']' :: rest => some (arr [], rest)
        | rest => (readItems fuel depth rest).map fun r => (arr r.1, r.2)
    | '\x7b' :: rest =>
      match depth with
      | 0 => none
      | depth + 1 =>
        match skipSpace rest with
        | '\x7d' :: rest => some (obj [], rest)
        | rest => (readFields fuel depth rest).map fun r => (obj r.1, r.2)
    | 'n' :: 'u' :: 'l' :: 'l' :: rest => some (null, rest)
    | 't' :: 'r' :: 'u' :: 'e' :: rest => some (bool true, rest)
    | 'f' :: 'a' :: 'l' :: 's' :: 'e' :: rest => some (bool false, rest)
    | rest => readNumber rest

/-- The items of an array that has some, up to and with the closing bracket. -/
def readItems : (fuel depth : Nat) → List Char → Option (List Json × List Char)
  | 0, _, _ => none
  | fuel + 1, depth, cs =>
    match readValue fuel depth cs with
    | none => none
    | some (item, rest) =>
      match skipSpace rest with
      | ',' :: rest => (readItems fuel depth rest).map fun r => (item :: r.1, r.2)
      | ']' :: rest => some ([item], rest)
      | _ => none

/-- The fields of an object that has some, up to and with the closing brace. -/
def readFields : (fuel depth : Nat) → List Char → Option (List (String × Json) × List Char)
  | 0, _, _ => none
  | fuel + 1, depth, cs =>
    match skipSpace cs with
    | '"' :: rest =>
      match readText rest with
      | none => none
      | some (key, rest) =>
        match skipSpace rest with
        | ':' :: rest =>
          match readValue fuel depth rest with
          | none => none
          | some (value, rest) =>
            match skipSpace rest with
            | ',' :: rest =>
              (readFields fuel depth rest).map fun r => ((String.ofList key, value) :: r.1, r.2)
            | '\x7d' :: rest => some ([(String.ofList key, value)], rest)
            | _ => none
        | _ => none
    | _ => none

end

/-- Levels of nesting that a text may have. -/
def maxDepth : Nat := 127

/-- The value that a whole text stands for, the fields of objects as they stand in it. -/
def parseRaw? (cs : List Char) : Option Json :=
  match readValue (cs.length + 1) maxDepth cs with
  | some (j, rest) => if skipSpace rest = [] then some j else none
  | none => none

/-- The value that a whole text stands for. -/
def parse? (cs : List Char) : Option Json :=
  (parseRaw? cs).map canonical

/-- The value that a whole payload stands for. -/
def ofBytes? (bytes : Bytes) : Option Json :=
  match Utf8.decode bytes with
  | .ok cs => parse? cs
  | .error _ => none

end NotebookKernel.Json
