import NotebookKernel.Toml.Token
import NotebookKernel.Toml.Value

/-!
Reading TOML documents.
-/

namespace NotebookKernel.Toml

/-- A value that is neither an array nor an inline table. -/
def scalar? (cs : List Char) : Option (Value × List Char) :=
  match cs with
  | [] => none
  | c :: _ =>
    if c = '"' ∨ c = '\x27' then
      (text? cs).map fun r => (.text (String.ofList r.1), r.2)
    else if c = 't' then
      (Text.dropLead? "true".toList cs).map fun rest => (.boolean true, rest)
    else if c = 'f' then
      (Text.dropLead? "false".toList cs).map fun rest => (.boolean false, rest)
    else
      match datetime? cs with
      | some rest => some (.datetime, rest)
      | none =>
        match float? cs with
        | some rest => some (.float, rest)
        | none => (integer? cs).map fun r => (.integer r.1, r.2)

mutual

/-- A value. Arrays and inline tables may be nested `depth` levels deep; `fuel` is more than twice
the length of the text. -/
def readValue : (fuel depth : Nat) → List Char → Option (Value × List Char)
  | 0, _, _ => none
  | fuel + 1, depth, cs =>
    match cs with
    | '[' :: rest =>
      match depth with
      | 0 => none
      | depth + 1 => (readItems fuel depth rest).map fun r => (.array r.1, r.2)
    | '\x7b' :: rest =>
      match depth with
      | 0 => none
      | depth + 1 =>
        match skipBlanks rest with
        | '\x7d' :: rest => some (.table [], rest)
        | rest => (readPairs fuel depth [] rest).map fun r => (.table (valuesOf r.1), r.2)
    | cs => scalar? cs

/-- The items of an array up to and with its closing bracket. Blanks, comments and line ends may
stand around each, and a comma after the last. -/
def readItems : (fuel depth : Nat) → List Char → Option (List Value × List Char)
  | 0, _, _ => none
  | fuel + 1, depth, cs =>
    match skipLines cs.length cs with
    | ']' :: rest => some ([], rest)
    | cs =>
      match readValue fuel depth cs with
      | none => none
      | some (item, rest) =>
        match skipLines rest.length rest with
        | ',' :: rest => (readItems fuel depth rest).map fun r => (item :: r.1, r.2)
        | ']' :: rest => some ([item], rest)
        | _ => none

/-- The pairs of an inline table that has some, up to and with its closing brace. All of it stands
on one line, without a comma after the last pair. -/
def readPairs : (fuel depth : Nat) → Entries → List Char → Option (Entries × List Char)
  | 0, _, _, _ => none
  | fuel + 1, depth, entries, cs =>
    match key? cs with
    | some ((path, key), '=' :: rest) =>
      match readValue fuel depth (skipBlanks rest) with
      | none => none
      | some (value, rest) =>
        match entries.addValue path key value with
        | none => none
        | some entries =>
          match skipBlanks rest with
          | ',' :: rest => readPairs fuel depth entries rest
          | '\x7d' :: rest => some (entries, rest)
          | _ => none
    | _ => none

end

/-- A document under construction: its entries, and the header under which lines now stand. -/
structure Draft where
  entries : Entries
  header : List String

/-- A line with a header, read after its first bracket. -/
def headerLine (draft : Draft) (cs : List Char) : Option (Draft × List Char) := do
  let (repeated, cs) :=
    match cs with
    | '[' :: rest => (true, rest)
    | cs => (false, cs)
  let ((path, key), rest) ← key? cs
  let rest ← Text.dropLead? (if repeated then [']', ']'] else [']']) rest
  let rest ← lineEnd? rest
  let entries ←
    if repeated then draft.entries.openItem path key else draft.entries.openTable path key
  pure ({ entries, header := path ++ [key] }, rest)

/-- A line with a key and its value. -/
def pairLine (draft : Draft) (cs : List Char) : Option (Draft × List Char) := do
  let ((path, key), rest) ← key? cs
  let rest ← Text.dropLead? ['='] rest
  let (value, rest) ← readValue (2 * cs.length + 2) (maxDepth - 1) (skipBlanks rest)
  let rest ← lineEnd? rest
  let entries ←
    Entries.updateAt false (fun _ inner => Entries.addValue path key value inner) draft.header false
      draft.entries
  pure ({ draft with entries }, rest)

/-- The lines of a document. Every step takes at least one character. -/
def readLines : (fuel : Nat) → Draft → List Char → Option Draft
  | 0, _, _ => none
  | fuel + 1, draft, cs =>
    match skipBlanks cs with
    | [] => some draft
    | c :: rest =>
      if c = '#' ∨ c = '\n' ∨ c = '\r' then
        match lineEnd? (c :: rest) with
        | some rest => readLines fuel draft rest
        | none => none
      else
        match if c = '[' then headerLine draft rest else pairLine draft (c :: rest) with
        | some (draft, rest) => readLines fuel draft rest
        | none => none

/-- The entries of a document. A byte order mark in front does not count. -/
def parse? (text : List Char) : Option (List (String × Value)) :=
  let text := (Text.dropLead? ['\ufeff'] text).getD text
  (readLines (text.length + 1) ⟨[], []⟩ text).map fun draft => valuesOf draft.entries

end NotebookKernel.Toml
