import Mathlib.Data.List.Forall2
import NotebookKernel.TargetLanguage
import NotebookKernel.Proofs.Json.OneLine

/-!
The string literals that the target reads.

A literal of one line ends at the first quote that is not escaped. Swift has fewer escapes than
JSON: `\b`, `\f`, `\/` and the four digits of `\u` mean nothing to it. The quoting of JSON is good
for a Swift literal all the same, as long as it has no control character to escape; JSON text has
none.
-/

namespace NotebookKernel

/-! ## Reading literals -/

namespace SwiftLiteral

/-- The character that a letter behind a backslash stands for. -/
def escaped? : Char → Option Char
  | '0' => some '\x00'
  | '\\' => some '\\'
  | 't' => some '\t'
  | 'n' => some '\n'
  | 'r' => some '\r'
  | '"' => some '"'
  | '\'' => some '\''
  | _ => none

/-- The character whose code point stands in front of a closing brace, in one to eight hexadecimal
digits, and what follows the brace. -/
def codePoint? (text : List Char) : Option (Char × List Char) :=
  let digits := text.takeWhile (· ≠ '\x7d')
  match Numeral.hexFrom? 0 digits, text.dropWhile (· ≠ '\x7d') with
  | some n, _ :: rest =>
    if 1 ≤ digits.length ∧ digits.length ≤ 8 ∧ n.isValidChar then some (Char.ofNat n, rest)
    else none
  | _, _ => none

/-- The character that a text inside a literal begins with, and what follows it. There is none at a
line break, and none behind a backslash that begins an interpolation or no escape at all. -/
def next? : List Char → Option (Char × List Char)
  | '\\' :: 'u' :: '\x7b' :: rest => codePoint? rest
  | '\\' :: mark :: rest => (escaped? mark).map fun c => (c, rest)
  | ['\\'] | [] => none
  | c :: rest => if c = '\n' ∨ c = '\r' then none else some (c, rest)

theorem length_lt_of_codePoint? {text rest : List Char} {c : Char}
    (found : codePoint? text = some (c, rest)) : rest.length < text.length := by
  unfold codePoint? at found
  extract_lets digits at found
  split at found
  · next n brace left _ behind =>
    have whole := congrArg List.length
      (List.takeWhile_append_dropWhile (p := (· ≠ '\x7d')) (l := text))
    rw [behind, List.length_append, List.length_cons] at whole
    obtain ⟨-, same⟩ := Option.ite_none_right_eq_some.mp found
    cases same
    omega
  · cases found

/-- A character of the literal takes at least one of its text. -/
theorem length_lt_of_next? {text rest : List Char} {c : Char}
    (found : next? text = some (c, rest)) : rest.length < text.length := by
  unfold next? at found
  split at found
  · next inside =>
    have shorter := length_lt_of_codePoint? found
    simp only [List.length_cons]
    omega
  · obtain ⟨d, -, same⟩ := Option.map_eq_some_iff.mp found
    cases same
    simp only [List.length_cons]
    omega
  · cases found
  · cases found
  · obtain ⟨-, same⟩ := Option.ite_none_left_eq_some.mp found
    cases same
    exact Nat.lt_succ_self _

/-- What a literal denotes, from behind its opening quote, and what follows its closing quote. -/
def inside? (text : List Char) : Option (List Char × List Char) :=
  if text.head? = some '"' then some ([], text.tail)
  else
    match _ : next? text with
    | none => none
    | some (c, rest) => (inside? rest).map fun read => (c :: read.1, read.2)
termination_by text.length
decreasing_by exact length_lt_of_next? ‹_›

/-- What a literal of one line denotes, and what follows it. Three quotes would open a literal of
several lines. -/
def read? : List Char → Option (List Char × List Char)
  | '"' :: '"' :: '"' :: _ => none
  | '"' :: rest => inside? rest
  | _ => none

theorem inside?_quote (rest : List Char) : inside? ('"' :: rest) = some ([], rest) := by
  rw [inside?, if_pos List.head?_cons, List.tail_cons]

theorem inside?_of_next? {text rest : List Char} {c : Char} (inner : text.head? ≠ some '"')
    (found : next? text = some (c, rest)) :
    inside? text = (inside? rest).map fun read => (c :: read.1, read.2) := by
  rw [inside?, if_neg inner]
  split
  · next none => exact absurd (none.symm.trans found) (by simp)
  · next d left some =>
    cases some.symm.trans found
    rfl

/-! ## Quoting for both languages -/

/-- A piece of a literal with the character that it stands for. No other escapes are among the
pieces than those of a quote and a backslash, and no control characters. -/
inductive Piece : List Char → Char → Prop where
  | quote : Piece ['\\', '"'] '"'
  | backslash : Piece ['\\', '\\'] '\\'
  | char (c : Char) : c ≠ '"' → c ≠ '\\' → 0x20 ≤ c.toNat → Piece [c] c

theorem piece_escape {c : Char} (clear : 0x20 ≤ c.toNat) : Piece (Json.escape c) c := by
  have control : ∀ d : Char, d.toNat < 0x20 → c ≠ d := by
    intro d low same
    rw [same] at clear
    omega
  unfold Json.escape
  split
  · next quote => exact quote ▸ .quote
  split
  · next _ backslash => exact backslash ▸ .backslash
  next quote backslash =>
  rw [if_neg (control '\n' (by decide)), if_neg (control '\r' (by decide)),
    if_neg (control '\t' (by decide)), if_neg (control '\x08' (by decide)),
    if_neg (control '\x0c' (by decide)), if_neg (Nat.not_lt.mpr clear)]
  exact .char c quote backslash clear

namespace Piece

variable {piece : List Char} {c : Char}

/-- A piece is read in one step, and nothing behind it is touched. -/
theorem next? (is : Piece piece c) (rest : List Char) :
    SwiftLiteral.next? (piece ++ rest) = some (c, rest) := by
  cases is with
  | quote => rfl
  | backslash => rfl
  | char _ quote backslash clear =>
    have line : ¬ (c = '\n' ∨ c = '\r') := by
      rintro (rfl | rfl) <;> exact absurd clear (by decide)
    rw [List.singleton_append]
    unfold SwiftLiteral.next?
    split
    · next same => cases same; exact absurd rfl backslash
    · next same => cases same; exact absurd rfl backslash
    · next same => cases same; exact absurd rfl backslash
    · next same => cases same
    · next same =>
      cases same
      exact if_neg line

/-- No piece is taken for the closing quote. -/
theorem head?_ne (is : Piece piece c) (rest : List Char) : (piece ++ rest).head? ≠ some '"' := by
  cases is with
  | quote => exact fun same => absurd (Option.some.inj same) (by decide)
  | backslash => exact fun same => absurd (Option.some.inj same) (by decide)
  | char _ quote _ _ => exact fun same => quote (Option.some.inj same)

theorem space_le (is : Piece piece c) : ∀ d ∈ piece, 0x20 ≤ d.toNat := by
  cases is with
  | quote => exact space_le_of_all (by decide)
  | backslash => exact space_le_of_all (by decide)
  | char _ _ _ clear => exact List.forall_mem_singleton.mpr clear

end Piece

variable {pieces : List (List Char)} {text : List Char}

theorem inside?_pieces (are : List.Forall₂ Piece pieces text) (rest : List Char) :
    inside? (pieces.flatten ++ '"' :: rest) = some (text, rest) := by
  induction are with
  | nil => exact inside?_quote rest
  | cons is _ ih =>
    rw [List.flatten_cons, List.append_assoc, inside?_of_next? (is.head?_ne _) (is.next? _), ih]
    rfl

theorem read?_eq_inside? {text : List Char} (one : ∀ rest, text ≠ '"' :: '"' :: rest) :
    read? ('"' :: text) = inside? text := by
  unfold read?
  split
  · next same =>
    cases same
    exact absurd rfl (one _)
  · next same =>
    cases same
    rfl
  · next other => exact absurd rfl (other text)

/-- A literal made of pieces ends at the quote behind the last of them. -/
theorem read?_pieces (are : List.Forall₂ Piece pieces text) {rest : List Char}
    (closed : rest.head? ≠ some '"') :
    read? ('"' :: (pieces.flatten ++ '"' :: rest)) = some (text, rest) := by
  rw [← inside?_pieces are rest]
  apply read?_eq_inside?
  intro behind same
  cases are with
  | nil =>
    rw [List.flatten_nil, List.nil_append, List.cons.injEq] at same
    rw [same.2] at closed
    exact closed rfl
  | cons is _ =>
    rw [List.flatten_cons, List.append_assoc] at same
    exact is.head?_ne _ (congrArg List.head? same)

theorem forall_piece_escape (clear : ∀ c ∈ text, 0x20 ≤ c.toNat) :
    List.Forall₂ Piece (text.map Json.escape) text := by
  induction text with
  | nil => exact .nil
  | cons c text ih =>
    obtain ⟨first, others⟩ := List.forall_mem_cons.mp clear
    exact .cons (piece_escape first) (ih others)

theorem space_le_pieces (are : List.Forall₂ Piece pieces text) :
    ∀ c ∈ pieces.flatten, 0x20 ≤ c.toNat := by
  induction are with
  | nil => exact fun c mem => absurd mem List.not_mem_nil
  | cons is _ ih => exact List.forall_mem_append.mpr ⟨is.space_le, ih⟩

end SwiftLiteral

namespace TargetLanguage

open SwiftLiteral

/-- The statement that sets the context of a request has one literal. It has no escapes but those of
quotes and backslashes, it is one line, it ends at the quote that the statement closes it with, and
to the target it denotes the text of the context, whatever that is. -/
theorem setContext_denotes (context : Json) :
    ∃ pieces : List (List Char), List.Forall₂ Piece pieces context.render.toList ∧
      (swift.setContext context.render).toList =
        ("JupyterKernel.communicator.updateParentMessage(\n" ++
          "    to: KernelCommunicator.ParentMessage(json: ").toList ++
          '"' :: (pieces.flatten ++ '"' :: [')', ')']) ∧
      '\n' ∉ pieces.flatten ∧ '\r' ∉ pieces.flatten ∧
      read? ('"' :: (pieces.flatten ++ '"' :: [')', ')'])) =
        some (context.render.toList, [')', ')']) := by
  have clear : ∀ c ∈ context.render.toList, 0x20 ≤ c.toNat := by
    rw [Json.render, String.toList_ofList]
    exact context.space_le_chars
  have are := forall_piece_escape clear
  have inside := space_le_pieces are
  refine ⟨_, are, ?_, ?_, ?_, ?_⟩
  · simp [swift, literal, Json.quoted, List.flatMap]
  · exact fun mem => absurd (inside _ mem) (by decide)
  · exact fun mem => absurd (inside _ mem) (by decide)
  · exact read?_pieces are (by decide)

end TargetLanguage

end NotebookKernel
