import NotebookKernel.Cell.Execution
import NotebookKernel.Proofs.Cell.Patterns
import NotebookKernel.Proofs.Target.Literals

/-!
Which texts the target reads back from its literals.

The kernel puts a text into a literal in two ways: the identity of a session is quoted as in JSON,
and the name of a file stands between two quotes as it is. To the target neither is good for every
text. Quoting is, except for the control characters for which JSON has an escape that Swift has not,
and a text with one of those is refused, never read as another (`quotes_quoted`). A name as it is
denotes itself exactly if it has no backslash and no carriage return (`denotes_raw_iff`).
`TargetLanguage.literals_denote_iff` says it of the texts that are sent to the target.
-/

namespace NotebookKernel

namespace SwiftLiteral

/-- The literal is complete, has no interpolation and denotes the text, whatever stands behind it.
Only another quote may not, for three of them open a literal of several lines. -/
def Denotes (literal text : List Char) : Prop :=
  ∀ rest : List Char, rest.head? ≠ some '"' → read? (literal ++ rest) = some (text, rest)

/-- The characters whose escapes in JSON, if they have any, mean the same to the target. -/
def Legible (c : Char) : Prop :=
  0x20 ≤ c.toNat ∨ c = '\t' ∨ c = '\n' ∨ c = '\r'

instance : DecidablePred Legible :=
  fun c => inferInstanceAs (Decidable (0x20 ≤ c.toNat ∨ c = '\t' ∨ c = '\n' ∨ c = '\r'))

/-! ## Quoted texts -/

section Quoted

variable {c : Char} {text rest : List Char}

theorem inside?_of_next?_eq_none (inner : text.head? ≠ some '"') (nothing : next? text = none) :
    inside? text = none := by
  rw [inside?, if_neg inner]
  split
  · rfl
  · next d left found =>
    rw [nothing] at found
    cases found

theorem next?_escape (legible : Legible c) (rest : List Char) :
    next? (Json.escape c ++ rest) = some (c, rest) := by
  rcases legible with clear | rfl | rfl | rfl
  · exact (piece_escape clear).next? rest
  · rfl
  · rfl
  · rfl

/-- JSON has an escape for every other character, and none of them is one of the target's. -/
theorem escape_of_not_legible (control : ¬ Legible c) :
    Json.escape c = ['\\', 'b'] ∨ Json.escape c = ['\\', 'f'] ∨
      ∃ digits, Json.escape c = '\\' :: 'u' :: '0' :: digits := by
  rw [Legible, not_or, not_or, not_or] at control
  obtain ⟨low, tab, feed, return_⟩ := control
  have quote : c ≠ '"' := by
    rintro rfl
    exact absurd low (by decide)
  have backslash : c ≠ '\\' := by
    rintro rfl
    exact absurd low (by decide)
  unfold Json.escape
  rw [if_neg quote, if_neg backslash, if_neg feed, if_neg return_, if_neg tab]
  split
  · exact .inl rfl
  split
  · exact .inr (.inl rfl)
  · rw [if_pos (Nat.not_le.mp low)]
    exact .inr (.inr ⟨_, rfl⟩)

theorem next?_escape_eq_none (control : ¬ Legible c) (rest : List Char) :
    next? (Json.escape c ++ rest) = none := by
  rcases escape_of_not_legible control with same | same | ⟨digits, same⟩
  all_goals
    rw [same]
    rfl

/-- No escape is taken for the closing quote. -/
theorem head?_escape_ne (c : Char) (rest : List Char) :
    (Json.escape c ++ rest).head? ≠ some '"' := by
  by_cases legible : Legible c
  · rcases legible with clear | rfl | rfl | rfl
    · exact (piece_escape clear).head?_ne rest
    all_goals exact fun same => absurd (Option.some.inj same) (by decide)
  · rcases escape_of_not_legible legible with same | same | ⟨digits, same⟩
    all_goals
      rw [same]
      exact fun quote => absurd (Option.some.inj quote) (by decide)

/-- A legible text is read back to the quote that closes it. -/
theorem inside?_escaped (legible : ∀ c ∈ text, Legible c) (rest : List Char) :
    inside? (text.flatMap Json.escape ++ '"' :: rest) = some (text, rest) := by
  induction text with
  | nil => exact inside?_quote rest
  | cons c text ih =>
    obtain ⟨first, others⟩ := List.forall_mem_cons.mp legible
    rw [List.flatMap_cons, List.append_assoc,
      inside?_of_next? (head?_escape_ne c _) (next?_escape first _), ih others]
    rfl

/-- Any other text is not. -/
theorem inside?_escaped_eq_none (control : ∃ c ∈ text, ¬ Legible c) (rest : List Char) :
    inside? (text.flatMap Json.escape ++ '"' :: rest) = none := by
  induction text with
  | nil =>
    obtain ⟨c, mem, -⟩ := control
    cases mem
  | cons c text ih =>
    rw [List.flatMap_cons, List.append_assoc]
    by_cases legible : Legible c
    · obtain ⟨d, mem, other⟩ := control
      have later : d ∈ text := by
        rcases List.mem_cons.mp mem with rfl | mem
        · exact absurd legible other
        · exact mem
      rw [inside?_of_next? (head?_escape_ne c _) (next?_escape legible _), ih ⟨d, later, other⟩]
      rfl
    · exact inside?_of_next?_eq_none (head?_escape_ne c _) (next?_escape_eq_none legible _)

/-- Two quotes in a row are met only behind the quotes around nothing. -/
theorem escaped_ne_quotes (closed : text ≠ [] ∨ rest.head? ≠ some '"') (more : List Char) :
    text.flatMap Json.escape ++ '"' :: rest ≠ '"' :: '"' :: more := by
  intro same
  cases text with
  | nil =>
    injection same with _ behind
    rw [behind] at closed
    exact closed.elim (fun some_ => some_ rfl) (fun other => other rfl)
  | cons c text =>
    rw [List.flatMap_cons, List.append_assoc] at same
    exact head?_escape_ne c _ (congrArg List.head? same)

theorem read?_quoted (closed : text ≠ [] ∨ rest.head? ≠ some '"') :
    read? (Json.quoted text ++ rest) = inside? (text.flatMap Json.escape ++ '"' :: rest) := by
  have whole : Json.quoted text ++ rest = '"' :: (text.flatMap Json.escape ++ '"' :: rest) := by
    simp [Json.quoted]
  rw [whole, read?_eq_inside? (escaped_ne_quotes closed)]

/-- What becomes of a quoted text: the target reads it back exactly if it is legible, and any other
text is no literal at all. -/
structure Quotes (literal text : List Char) : Prop where
  denotes_iff : Denotes literal text ↔ ∀ c ∈ text, Legible c
  refused : (∃ c ∈ text, ¬ Legible c) → ∀ rest, read? (literal ++ rest) = none

theorem quotes_quoted (text : List Char) : Quotes (Json.quoted text) text := by
  have refused : (∃ c ∈ text, ¬ Legible c) → ∀ rest, read? (Json.quoted text ++ rest) = none := by
    intro ⟨c, mem, control⟩ rest
    rw [read?_quoted (.inl (List.ne_nil_of_mem mem)),
      inside?_escaped_eq_none ⟨c, mem, control⟩]
  refine ⟨⟨fun denotes c mem => ?_, fun legible rest closed => ?_⟩, refused⟩
  · by_contra control
    cases (refused ⟨c, mem, control⟩ []).symm.trans (denotes [] (by decide))
  · rw [read?_quoted (.inr closed), inside?_escaped legible]

end Quoted

/-! ## Texts as they are -/

section Raw

variable {c : Char} {text rest read name : List Char}

theorem suffix_of_codePoint? (found : codePoint? text = some (c, rest)) : rest <:+ text := by
  unfold codePoint? at found
  extract_lets digits at found
  split at found
  · next n brace left _ behind =>
    obtain ⟨-, same⟩ := Option.ite_none_right_eq_some.mp found
    cases same
    have tail : brace :: rest <:+ text := behind ▸ List.dropWhile_suffix _
    exact (List.suffix_cons brace rest).trans tail
  · cases found

/-- A character is read as itself, or from an escape that is longer. -/
theorem next?_eq_some (found : next? text = some (c, rest)) :
    text = c :: rest ∧ c ≠ '\\' ∧ c ≠ '\n' ∧ c ≠ '\r' ∨
      ∃ first second more, text = first :: second :: more ∧ rest <:+ more := by
  unfold next? at found
  split at found
  · next inside =>
    exact .inr ⟨_, _, _, rfl, (suffix_of_codePoint? found).trans (List.suffix_cons _ _)⟩
  · next mark behind _ =>
    obtain ⟨d, -, same⟩ := Option.map_eq_some_iff.mp found
    cases same
    exact .inr ⟨_, _, _, rfl, List.suffix_rfl⟩
  · cases found
  · cases found
  · next escape alone =>
    obtain ⟨line, same⟩ := Option.ite_none_left_eq_some.mp found
    cases same
    refine .inl ⟨rfl, ?_, fun feed => line (.inl feed), fun return_ => line (.inr return_)⟩
    rintro rfl
    cases rest with
    | nil => exact alone rfl rfl
    | cons mark rest => exact escape mark rest rfl rfl

/-- What a literal denotes is what stands in it, or shorter. -/
theorem inside?_eq_some (found : inside? text = some (read, rest)) :
    ∃ body, text = body ++ '"' :: rest ∧ (read.length < body.length ∨
      read = body ∧ ∀ c ∈ body, c ≠ '\\' ∧ c ≠ '\n' ∧ c ≠ '\r') := by
  fun_induction inside? text generalizing read with
  | case1 text closing =>
    cases found
    cases text with
    | nil => cases closing
    | cons c text =>
      cases closing
      exact ⟨[], rfl, .inr ⟨rfl, List.forall_mem_nil _⟩⟩
  | case2 text _ nothing => cases found
  | case3 text _ c behind next ih =>
    obtain ⟨inner, within, same⟩ := Option.map_eq_some_iff.mp found
    cases same
    obtain ⟨body, parts, fits⟩ := ih within
    rcases next?_eq_some next with ⟨same, plain⟩ | ⟨first, second, more, same, skipped, tail⟩
    · refine ⟨c :: body, by rw [same, parts]; rfl, ?_⟩
      rcases fits with shorter | ⟨whole, others⟩
      · exact .inl (Nat.succ_lt_succ shorter)
      · exact .inr ⟨congrArg _ whole, List.forall_mem_cons.mpr ⟨plain, others⟩⟩
    · refine ⟨first :: second :: (skipped ++ body), ?_, .inl ?_⟩
      · rw [same, ← tail, parts]
        simp
      · have bound : inner.1.length ≤ body.length := by
          rcases fits with shorter | ⟨whole, -⟩
          · exact Nat.le_of_lt shorter
          · exact Nat.le_of_eq (congrArg _ whole)
        simp only [List.length_cons, List.length_append]
        omega

theorem next?_plain (escape : c ≠ '\\') (line : c ≠ '\n' ∧ c ≠ '\r') (rest : List Char) :
    next? (c :: rest) = some (c, rest) := by
  unfold next?
  split
  · next same => cases same; exact absurd rfl escape
  · next same => cases same; exact absurd rfl escape
  · next same => cases same; exact absurd rfl escape
  · next same => cases same
  · next same =>
    cases same
    exact if_neg fun break_ => break_.elim line.1 line.2

theorem inside?_plain (plain : ∀ c ∈ text, c ≠ '"' ∧ c ≠ '\\' ∧ c ≠ '\n' ∧ c ≠ '\r')
    (rest : List Char) : inside? (text ++ '"' :: rest) = some (text, rest) := by
  induction text with
  | nil => exact inside?_quote rest
  | cons c text ih =>
    obtain ⟨⟨quote, escape, line⟩, others⟩ := List.forall_mem_cons.mp plain
    have inner : (c :: (text ++ '"' :: rest)).head? ≠ some '"' := fun same =>
      quote (Option.some.inj same)
    rw [List.cons_append, inside?_of_next? inner (next?_plain escape line _), ih others]
    rfl

/-- Between quotes a text that has none denotes itself exactly if the target sees no escape and no
line break in it. -/
theorem denotes_raw_iff (some_ : name ≠ []) (plain : '"' ∉ name) (line : '\n' ∉ name) :
    Denotes ('"' :: (name ++ ['"'])) name ↔ '\\' ∉ name ∧ '\r' ∉ name := by
  have opened : ∀ rest, read? ('"' :: (name ++ ['"']) ++ rest) = inside? (name ++ '"' :: rest) := by
    intro rest
    have whole : '"' :: (name ++ ['"']) ++ rest = '"' :: (name ++ '"' :: rest) := by simp
    rw [whole]
    apply read?_eq_inside?
    intro more same
    cases name with
    | nil => exact some_ rfl
    | cons c name =>
      injection same with first
      exact plain (first ▸ List.mem_cons_self)
  constructor
  · intro denotes
    have read := denotes [] (by decide)
    rw [opened] at read
    obtain ⟨body, parts, fits⟩ := inside?_eq_some read
    obtain rfl := (List.append_inj' parts rfl).1
    rcases fits with shorter | ⟨-, clean⟩
    · exact absurd shorter (Nat.lt_irrefl _)
    · exact ⟨fun mem => (clean _ mem).1 rfl, fun mem => (clean _ mem).2.2 rfl⟩
  · intro ⟨escape, return_⟩ rest _
    rw [opened]
    apply inside?_plain
    intro c mem
    exact ⟨fun same => plain (same ▸ mem), fun same => escape (same ▸ mem),
      fun same => line (same ▸ mem), fun same => return_ (same ▸ mem)⟩

end Raw

end SwiftLiteral

/-! ## The files that markers name -/

/-- A name that a location marker may be given: one from an include line of a source, or the name of
a cell. -/
inductive MarkedFile : String → Prop
  | included {source : String} {line name : List Char} :
    line ∈ Text.lines source.toList → Directive.Names line name → MarkedFile (String.ofList name)
  | cell (k : Kernel) : MarkedFile k.cellName

/-- They are the texts of one line that are not empty and have no quotes. -/
theorem markedFile_iff {file : String} :
    MarkedFile file ↔ file.toList ≠ [] ∧ '"' ∉ file.toList ∧ '\n' ∉ file.toList := by
  constructor
  · intro marked
    cases marked with
    | included mem names =>
      have oneLine := Text.not_mem_of_mem_lines mem
      obtain ⟨blanks, spaces, tail, same, -, -, some_, plain⟩ := names
      rw [same] at oneLine
      simp only [List.mem_append, List.mem_cons, not_or] at oneLine
      rw [String.toList_ofList]
      exact ⟨some_, plain, oneLine.2.2.2.2.1⟩
    | cell k =>
      have digits : ∀ c ∈ Nat.toDigits 10 k.counter.toNat, c ≠ '"' ∧ c ≠ '\n' := by
        intro c mem
        have digit := Numeral.toNat_of_isDigit (Numeral.isDigit_of_mem_decimal mem)
        constructor
        · rintro rfl
          exact absurd digit.1 (by decide)
        · rintro rfl
          exact absurd digit.1 (by decide)
      have quote : '"' ∉ Nat.toDigits 10 k.counter.toNat := fun mem => (digits _ mem).1 rfl
      have feed : '\n' ∉ Nat.toDigits 10 k.counter.toNat := fun mem => (digits _ mem).2 rfl
      refine ⟨?_, ?_, ?_⟩
      all_goals simp [Kernel.cellName, quote, feed, toString]
  · intro ⟨some_, plain, oneLine⟩
    let line := Directive.includeMark ++ '"' :: (file.toList ++ ['"'])
    have oneLine' : '\n' ∉ line := by
      have mark : '\n' ∉ Directive.includeMark := by decide
      simp [line, mark, oneLine]
    have mem : line ∈ Text.lines (String.ofList line).toList := by
      rw [String.toList_ofList, Text.lines_of_not_mem oneLine']
      exact List.mem_singleton_self line
    have names : Directive.Names line file.toList :=
      ⟨[], [], [], rfl, List.forall_mem_nil _, List.forall_mem_nil _, some_, plain⟩
    have marked := MarkedFile.included mem names
    rwa [String.ofList_toList] at marked

namespace TargetLanguage

open SwiftLiteral

/-- The declaration of a session has three literals, one for each text of its identity. The target
reads such a text back exactly if it is legible, and otherwise finds no literal in its place. A
location marker has one literal for the file. It denotes the name exactly if there is neither a
backslash nor a carriage return in it. -/
theorem literals_denote_iff (identity : NotebookIdentity) {file : String} (marked : MarkedFile file)
    (line : Nat) :
    ((swift.declareSession identity).toList =
        ("enum JupyterKernel \x7b\n" ++
          "    static var communicator = KernelCommunicator(\n" ++
          "        jupyterSession: KernelCommunicator.JupyterSession(\n" ++
          "            id: ").toList ++ (literal identity.id).toList ++
        ", key: ".toList ++ (literal identity.key).toList ++
        ", username: ".toList ++ (literal identity.username).toList ++ ("))\n" ++ "\x7d").toList ∧
      ∀ text ∈ [identity.id, identity.key, identity.username],
        Quotes (literal text).toList text.toList) ∧
    ∃ name, (swift.marker file line).toList =
        "#sourceLocation(file: ".toList ++ name ++ ", line: ".toList ++
          (Numeral.decimal line ++ [')']) ∧
      (Denotes name file.toList ↔ '\\' ∉ file.toList ∧ '\r' ∉ file.toList) := by
  obtain ⟨some_, plain, oneLine⟩ := markedFile_iff.mp marked
  refine ⟨⟨?_, fun text _ => ?_⟩, _, ?_, denotes_raw_iff some_ plain oneLine⟩
  · simp only [swift, String.toList_append, List.append_assoc]
  · rw [literal, String.toList_ofList]
    exact quotes_quoted text.toList
  · simp [swift, Numeral.decimal, toString]

/-- Quotes, backslashes and line breaks in an identity, and the name of a cell. -/
theorem literals_denote_iff_cell :
    MarkedFile "<Cell 3>" ∧
      (∀ text ∈ ["s\"1\\", "ключ\t", "me\r\n"], Denotes (literal text).toList text.toList) ∧
      ∃ name, (swift.marker "<Cell 3>" 1).toList =
          "#sourceLocation(file: ".toList ++ name ++ ", line: ".toList ++
            (Numeral.decimal 1 ++ [')']) ∧
        Denotes name "<Cell 3>".toList := by
  have marked : MarkedFile "<Cell 3>" := markedFile_iff.mpr (by decide)
  obtain ⟨⟨-, quotes⟩, name, whole, named⟩ :=
    literals_denote_iff ⟨"s\"1\\", "ключ\t", "me\r\n"⟩ marked 1
  have legible : ∀ text ∈ ["s\"1\\", "ключ\t", "me\r\n"], ∀ c ∈ text.toList, Legible c := by
    have all : ["s\"1\\", "ключ\t", "me\r\n"].all (·.toList.all (Legible ·)) = true := by
      decide +kernel
    simpa only [List.all_eq_true, decide_eq_true_eq] using all
  refine ⟨marked, fun text mem => ?_, name, whole, named.mpr (by decide)⟩
  exact (quotes text mem).denotes_iff.mpr (legible text mem)

/-- A backspace in an identity leaves the target without a literal. A file whose name has a
backslash is named to the target as another one. -/
theorem literals_misread :
    ¬ Denotes (literal "\x08").toList "\x08".toList ∧
      (∀ rest, read? ((literal "\x08").toList ++ rest) = none) ∧
      MarkedFile "a\\tb" ∧
      ∃ name, (swift.marker "a\\tb" 1).toList =
          "#sourceLocation(file: ".toList ++ (name ++ ", line: 1)".toList) ∧
        ¬ Denotes name "a\\tb".toList ∧
        read? (name ++ ", line: 1)".toList) = some ("a\tb".toList, ", line: 1)".toList) := by
  have refused : ∀ rest, read? ((literal "\x08").toList ++ rest) = none := by
    rw [literal, String.toList_ofList]
    exact (quotes_quoted _).refused ⟨'\x08', by decide, by decide⟩
  have marked : MarkedFile "a\\tb" := markedFile_iff.mpr (by decide)
  obtain ⟨some_, plain, oneLine⟩ := markedFile_iff.mp marked
  refine ⟨fun denotes => ?_, refused, marked, '"' :: ("a\\tb".toList ++ ['"']), ?_, ?_, ?_⟩
  · cases (refused []).symm.trans (denotes [] (by decide))
  · decide
  · rw [denotes_raw_iff some_ plain oneLine]
    decide
  · change inside? ('a' :: '\\' :: 't' :: 'b' :: '"' :: ", line: 1)".toList) = _
    rw [inside?_of_next? (by decide) rfl, inside?_of_next? (by decide) rfl,
      inside?_of_next? (by decide) rfl, inside?_quote]
    rfl

end TargetLanguage

end NotebookKernel
