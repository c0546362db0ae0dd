import NotebookKernel.Text.Blank
import NotebookKernel.Text.Numeral

/-!
The smallest pieces of a TOML document: blanks and comments, keys, texts, numbers and dates.

Each reader takes the characters that are left and gives back what follows the piece it read.
-/

namespace NotebookKernel.Toml

/-- Blanks within a line. -/
def isBlank (c : Char) : Bool :=
  c = ' ' || c = '\t'

/-- Without blanks in front. -/
def skipBlanks (cs : List Char) : List Char :=
  cs.dropWhile isBlank

/-- Characters that may stand in a comment. -/
def isCommentChar (c : Char) : Bool :=
  c = '\t' || (0x20 ≤ c.toNat && c.toNat ≠ 0x7F)

/-- Without a comment in front. -/
def skipComment (cs : List Char) : List Char :=
  match cs with
  | '#' :: rest => rest.dropWhile isCommentChar
  | cs => cs

/-- What follows a line end. -/
def newline? : List Char → Option (List Char)
  | '\n' :: rest => some rest
  | '\r' :: '\n' :: rest => some rest
  | _ => none

/-- What follows the end of a line, before which blanks and a comment may stand. -/
def lineEnd? (cs : List Char) : Option (List Char) :=
  match skipComment (skipBlanks cs) with
  | [] => some []
  | rest => newline? rest

/-- Without blanks, comments and line ends in front; `fuel` is at least the length. -/
def skipLines : (fuel : Nat) → List Char → List Char
  | 0, cs => cs
  | fuel + 1, cs =>
    match skipBlanks cs with
    | '#' :: rest =>
      match newline? (rest.dropWhile isCommentChar) with
      | some rest => skipLines fuel rest
      | none => '#' :: rest
    | cs =>
      match newline? cs with
      | some rest => skipLines fuel rest
      | none => cs

/-! ## Texts -/

/-- The character with a code point given by hexadecimal digits. -/
def codePoint? (digits : List Char) : Option Char :=
  match Numeral.hexFrom? 0 digits with
  | some n => if n.isValidChar then some (Char.ofNat n) else none
  | none => none

/-- What an escape stands for, read after its backslash. -/
def escape? : List Char → Option (Char × List Char)
  | '"' :: rest => some ('"', rest)
  | '\\' :: rest => some ('\\', rest)
  | 'b' :: rest => some ('\x08', rest)
  | 'f' :: rest => some ('\x0c', rest)
  | 'n' :: rest => some ('\n', rest)
  | 'r' :: rest => some ('\r', rest)
  | 't' :: rest => some ('\t', rest)
  | 'u' :: rest =>
    if rest.length < 4 then none else (codePoint? (rest.take 4)).map fun c => (c, rest.drop 4)
  | 'U' :: rest =>
    if rest.length < 8 then none else (codePoint? (rest.take 8)).map fun c => (c, rest.drop 8)
  | _ => none

/-- Characters that stand for themselves in a text of one line. -/
def isPlain (c : Char) : Bool :=
  isCommentChar c

/-- A text of one line after its opening double quote. -/
def basicText : (fuel : Nat) → List Char → Option (List Char × List Char)
  | 0, _ => none
  | fuel + 1, cs =>
    match cs with
    | '"' :: rest => some ([], rest)
    | '\\' :: rest =>
      match escape? rest with
      | some (c, rest) => (basicText fuel rest).map fun r => (c :: r.1, r.2)
      | none => none
    | c :: rest =>
      if isPlain c then (basicText fuel rest).map fun r => (c :: r.1, r.2) else none
    | [] => none

/-- A text of one line after its opening single quote. Nothing is escaped. -/
def literalText (cs : List Char) : Option (List Char × List Char) :=
  let text := cs.takeWhile fun c => isPlain c && c ≠ '\x27'
  match cs.drop text.length with
  | '\x27' :: rest => some (text, rest)
  | _ => none

/-- How many quotes a run of them, at least three long, leaves in the text that it ends: a text may
end in two quotes of its own. -/
def quotesInside (run : Nat) : Nat :=
  min (run - 3) 2

/-- Without blanks and line ends in front; `fuel` is at least the length. -/
def skipEmptyLines : (fuel : Nat) → List Char → List Char
  | 0, cs => cs
  | fuel + 1, cs =>
    let rest := skipBlanks cs
    match newline? rest with
    | some after => skipEmptyLines fuel after
    | none => rest

/-- A text of several lines after its three opening quotes. A backslash at the end of a line takes
away all blanks and line ends up to the next character. -/
def multilineText (quote : Char) (escapes : Bool) :
    (fuel : Nat) → List Char → Option (List Char × List Char)
  | 0, _ => none
  | fuel + 1, cs =>
    match cs with
    | [] => none
    | c :: rest =>
      if c = quote then
        let run := (cs.takeWhile (· = quote)).length
        if run < 3 then
          (multilineText quote escapes fuel rest).map fun r => (quote :: r.1, r.2)
        else
          some (List.replicate (quotesInside run) quote, cs.drop (quotesInside run + 3))
      else if escapes ∧ c = '\\' then
        match newline? (skipBlanks rest) with
        | some after => multilineText quote escapes fuel (skipEmptyLines after.length after)
        | none =>
          match escape? rest with
          | some (c, rest) => (multilineText quote escapes fuel rest).map fun r => (c :: r.1, r.2)
          | none => none
      else
        match newline? cs with
        | some after => (multilineText quote escapes fuel after).map fun r => ('\n' :: r.1, r.2)
        | none =>
          if isPlain c then
            (multilineText quote escapes fuel rest).map fun r => (c :: r.1, r.2)
          else none

/-- Without one line end in front. -/
def dropNewline (cs : List Char) : List Char :=
  (newline? cs).getD cs

/-- A text at the start of a value. -/
def text? (cs : List Char) : Option (List Char × List Char) :=
  match cs with
  | '"' :: '"' :: '"' :: rest => multilineText '"' true (rest.length + 1) (dropNewline rest)
  | '"' :: rest => basicText (rest.length + 1) rest
  | '\x27' :: '\x27' :: '\x27' :: rest =>
    multilineText '\x27' false (rest.length + 1) (dropNewline rest)
  | '\x27' :: rest => literalText rest
  | _ => none

/-! ## Keys -/

/-- Characters of a key without quotes. -/
def isKeyChar (c : Char) : Bool :=
  c.isAlphanum || c = '-' || c = '_'

/-- One key between dots. -/
def simpleKey? (cs : List Char) : Option (String × List Char) :=
  match cs with
  | '"' :: rest => (basicText (rest.length + 1) rest).map fun r => (String.ofList r.1, r.2)
  | '\x27' :: rest => (literalText rest).map fun r => (String.ofList r.1, r.2)
  | cs =>
    let key := cs.takeWhile isKeyChar
    if key = [] then none else some (String.ofList key, cs.drop key.length)

/-- Keys between dots, blanks around each; `fuel` is at least the length. -/
def dottedKey? : (fuel : Nat) → List Char → Option (List String × List Char)
  | 0, _ => none
  | fuel + 1, cs =>
    match simpleKey? (skipBlanks cs) with
    | none => none
    | some (key, rest) =>
      match skipBlanks rest with
      | '.' :: rest => (dottedKey? fuel rest).map fun r => (key :: r.1, r.2)
      | rest => some ([key], rest)

/-- Levels of nesting that a document may have, of keys as of values. -/
def maxDepth : Nat := 80

/-- A key, in parts: the path and the last part. -/
def key? (cs : List Char) : Option ((List String × String) × List Char) :=
  match dottedKey? (cs.length + 1) cs with
  | some (keys, rest) =>
    match keys.getLast? with
    | some last => if keys.length < maxDepth then some ((keys.dropLast, last), rest) else none
    | none => none
  | none => none

/-! ## Numbers -/

/-- Digits, between which single underscores may stand; what follows them is given back. -/
def groupedDigits? (isDigit : Char → Bool) : List Char → Option (List Char × List Char)
  | [] => none
  | c :: cs =>
    if isDigit c then
      match cs with
      | [] => some ([c], [])
      | d :: rest =>
        if isDigit d then (groupedDigits? isDigit (d :: rest)).map fun r => (c :: r.1, r.2)
        else if d = '_' then
          match groupedDigits? isDigit rest with
          | some r => some (c :: r.1, r.2)
          | none => some ([c], d :: rest)
        else some ([c], d :: rest)
    else none

/-- Decimal digits without a zero in front of others. -/
def wholePart? (cs : List Char) : Option (List Char × List Char) :=
  match cs with
  | '0' :: rest => some (['0'], rest)
  | cs => groupedDigits? Numeral.isDigit cs

/-- The sign in front of a number, and the rest. -/
def sign (cs : List Char) : Bool × List Char :=
  match cs with
  | '+' :: rest => (false, rest)
  | '-' :: rest => (true, rest)
  | cs => (false, cs)

/-- Digits of a numeral with a given base. -/
def digitsInBase? (base : Nat) (cs : List Char) : Option (Nat × List Char) :=
  let isDigit (c : Char) : Bool :=
    match Numeral.hexDigit? c with
    | some d => d < base
    | none => false
  (groupedDigits? isDigit cs).map fun r =>
    (r.1.foldl (fun n c => base * n + (Numeral.hexDigit? c).getD 0) 0, r.2)

/-- An integer of 64 bits. -/
def integer? (cs : List Char) : Option (Int × List Char) :=
  let based : Option (Nat × List Char) :=
    match cs with
    | '0' :: 'x' :: rest => digitsInBase? 16 rest
    | '0' :: 'o' :: rest => digitsInBase? 8 rest
    | '0' :: 'b' :: rest => digitsInBase? 2 rest
    | _ => none
  match based with
  | some (n, rest) => if n < Nat.pow 2 63 then some (n, rest) else none
  | none =>
    let (negative, rest) := sign cs
    match wholePart? rest with
    | none => none
    | some (digits, rest) =>
      let n := Nat.ofDigitChars 10 digits 0
      if negative then if n ≤ Nat.pow 2 63 then some (-(n : Int), rest) else none
      else if n < Nat.pow 2 63 then some (n, rest) else none

/-- The exponent of a number, read after its mark. -/
def exponent? (cs : List Char) : Option (Int × List Char) :=
  let (negative, rest) := sign cs
  (groupedDigits? Numeral.isDigit rest).map fun r =>
    let n := Nat.ofDigitChars 10 r.1 0
    (if negative then -(n : Int) else n, r.2)

/-- A number `digits * 10 ^ power` is too large for a double. -/
def overflows (digits : Nat) (power : Int) : Bool :=
  let size : Int := (Nat.toDigits 10 digits).length + power
  if digits = 0 ∨ size < 309 then false
  else if 309 < size then true
  else
    let limit := (Nat.pow 2 54 - 1) * Nat.pow 2 970
    if 0 ≤ power then limit ≤ digits * Nat.pow 10 power.toNat
    else limit * Nat.pow 10 (-power).toNat ≤ digits

/-- What follows a number with a fraction or an exponent, or one that is not finite. A positive
number may not be too large for a double. -/
def float? (cs : List Char) : Option (List Char) :=
  let (negative, rest) := sign cs
  match Text.dropLead? "inf".toList rest, Text.dropLead? "nan".toList rest with
  | some rest, _ => some rest
  | none, some rest => some rest
  | none, none =>
    match wholePart? rest with
    | none => none
    | some (whole, rest) =>
      let fraction : Option (Option (List Char) × List Char) :=
        match rest with
        | '.' :: rest => (groupedDigits? Numeral.isDigit rest).map fun r => (some r.1, r.2)
        | rest => some (none, rest)
      match fraction with
      | none => none
      | some (fraction, rest) =>
        let power : Option (Option Int × List Char) :=
          match rest with
          | 'e' :: rest => (exponent? rest).map fun r => (some r.1, r.2)
          | 'E' :: rest => (exponent? rest).map fun r => (some r.1, r.2)
          | rest => some (none, rest)
        match power with
        | none => none
        | some (power, rest) =>
          if fraction.isNone ∧ power.isNone then none
          else
            let places := fraction.getD []
            let digits := Nat.ofDigitChars 10 (whole ++ places) 0
            if !negative ∧ overflows digits (power.getD 0 - places.length) then none
            else some rest

/-! ## Dates and times -/

/-- A numeral of exactly `count` digits. -/
def fixedDigits? (count : Nat) (cs : List Char) : Option (Nat × List Char) :=
  let digits := cs.take count
  if digits.length = count ∧ digits.all Numeral.isDigit then
    some (Nat.ofDigitChars 10 digits 0, cs.drop count)
  else none

/-- The number of days of a month. -/
def daysInMonth (year month : Nat) : Nat :=
  if month = 2 then if year % 4 = 0 ∧ (year % 100 ≠ 0 ∨ year % 400 = 0) then 29 else 28
  else if month = 4 ∨ month = 6 ∨ month = 9 ∨ month = 11 then 30
  else 31

/-- What follows a date. -/
def date? (cs : List Char) : Option (List Char) := do
  let (year, rest) ← fixedDigits? 4 cs
  let rest ← Text.dropLead? ['-'] rest
  let (month, rest) ← fixedDigits? 2 rest
  let rest ← Text.dropLead? ['-'] rest
  let (day, rest) ← fixedDigits? 2 rest
  if 1 ≤ month ∧ month ≤ 12 ∧ 1 ≤ day ∧ day ≤ daysInMonth year month then some rest else none

/-- What follows a time of day. A second may be a leap second. -/
def time? (cs : List Char) : Option (List Char) := do
  let (hour, rest) ← fixedDigits? 2 cs
  let rest ← Text.dropLead? [':'] rest
  let (minute, rest) ← fixedDigits? 2 rest
  let rest ← Text.dropLead? [':'] rest
  let (second, rest) ← fixedDigits? 2 rest
  if hour ≤ 23 ∧ minute ≤ 59 ∧ second ≤ 60 then
    match rest with
    | '.' :: d :: more =>
      if Numeral.isDigit d then some (more.dropWhile Numeral.isDigit) else some rest
    | rest => some rest
  else none

/-- What follows the offset of a time from universal time, if there is one. -/
def offset? (cs : List Char) : Option (List Char) :=
  match cs with
  | 'Z' :: rest => some rest
  | 'z' :: rest => some rest
  | c :: rest =>
    if c = '+' ∨ c = '-' then do
      let (hour, rest) ← fixedDigits? 2 rest
      let rest ← Text.dropLead? [':'] rest
      let (minute, rest) ← fixedDigits? 2 rest
      if hour ≤ 23 ∧ minute ≤ 59 then some rest else none
    else none
  | [] => none

/-- What follows a date, a time, or both. -/
def datetime? (cs : List Char) : Option (List Char) :=
  match date? cs with
  | some rest =>
    match rest with
    | c :: after =>
      if c = 'T' ∨ c = 't' ∨ c = ' ' then
        match time? after with
        | some after => some ((offset? after).getD after)
        | none => some rest
      else some rest
    | [] => some []
  | none => time? cs

end NotebookKernel.Toml
