import NotebookKernel.Cell.Directive
import NotebookKernel.Proofs.Text.Trim

/-!
The patterns of directives.

`Directive.ofLine` takes a line apart from its start. Here the two kinds of directive lines are said
by their shape: white space, then `%include`, a space and anything; or `%enableCompletion` between
white space. A line is a directive of a kind exactly if it has the shape, and no line has both.
-/

namespace NotebookKernel

namespace Directive

variable {line : List Char}

/-- White space, the mark of an include line, and anything behind it. -/
def AsksFile (line : List Char) : Prop :=
  ∃ blanks rest, (∀ c ∈ blanks, Text.isBlank c = true) ∧ line = blanks ++ (includeMark ++ rest)

/-- The mark that switches completion on, between white space. -/
def AsksCompletion (line : List Char) : Prop :=
  ∃ blanks rest, (∀ c ∈ blanks, Text.isBlank c = true) ∧
    (∀ c ∈ rest, Text.isBlank c = true) ∧ line = blanks ++ (completionMark ++ rest)

theorem includeMark_eq : includeMark = '%' :: "include ".toList := by
  decide

theorem completionMark_eq : completionMark = '%' :: "enableCompletion".toList := by
  decide

/-- White space in front of a directive is dropped, and nothing of the directive. -/
theorem dropWhile_blanks {blanks mark rest : List Char}
    (blank : ∀ c ∈ blanks, Text.isBlank c = true) :
    (blanks ++ ('%' :: mark ++ rest)).dropWhile Text.isBlank = '%' :: mark ++ rest := by
  rw [List.dropWhile_append_of_pos blank]
  exact List.dropWhile_cons_of_neg (by decide)

/-- A line is its white space in front and the rest. -/
theorem exists_blanks (line : List Char) :
    ∃ blanks, (∀ c ∈ blanks, Text.isBlank c = true) ∧
      line = blanks ++ line.dropWhile Text.isBlank :=
  ⟨line.takeWhile Text.isBlank, fun c mem => List.all_eq_true.mp List.all_takeWhile c mem,
    List.takeWhile_append_dropWhile.symm⟩

theorem dropLead?_of_asksFile (asks : AsksFile line) :
    ∃ rest, Text.dropLead? includeMark (line.dropWhile Text.isBlank) = some rest := by
  obtain ⟨blanks, rest, blank, rfl⟩ := asks
  have start : (blanks ++ (includeMark ++ rest)).dropWhile Text.isBlank = includeMark ++ rest := by
    rw [includeMark_eq, dropWhile_blanks blank]
  rw [start]
  exact ⟨rest, Text.dropLead?_append includeMark rest⟩

theorem asksFile_of_dropLead? {rest : List Char}
    (lead : Text.dropLead? includeMark (line.dropWhile Text.isBlank) = some rest) :
    AsksFile line := by
  obtain ⟨blanks, blank, parts⟩ := exists_blanks line
  rw [Text.dropLead?_eq_some_iff.mp lead] at parts
  exact ⟨blanks, rest, blank, parts⟩

theorem ofLine_eq_includeFile_iff :
    (∃ name?, ofLine line = .includeFile name?) ↔ AsksFile line := by
  unfold ofLine
  dsimp only
  constructor
  · rintro ⟨name?, directive⟩
    split at directive
    · next rest lead => exact asksFile_of_dropLead? lead
    · split at directive <;> cases directive
  · intro asks
    obtain ⟨rest, lead⟩ := dropLead?_of_asksFile asks
    rw [lead]
    exact ⟨_, rfl⟩

/-- The two marks differ in their second character. -/
theorem AsksCompletion.not_asksFile (asks : AsksCompletion line) : ¬ AsksFile line := by
  obtain ⟨blanks, rest, blank, -, rfl⟩ := asks
  intro file
  obtain ⟨_, lead⟩ := dropLead?_of_asksFile file
  rw [completionMark_eq, dropWhile_blanks blank, Text.dropLead?_eq_some_iff, includeMark_eq] at lead
  injection lead with _ second
  injection second with second
  exact absurd second (by decide)

theorem ofLine_eq_enableCompletion_iff : ofLine line = .enableCompletion ↔ AsksCompletion line := by
  constructor
  · intro directive
    unfold ofLine at directive
    dsimp only at directive
    split at directive
    · cases directive
    · split at directive
      · next mark =>
        obtain ⟨blanks, blank, parts⟩ := exists_blanks line
        obtain ⟨rest, cut, whole⟩ :=
          Text.dropWhileEnd_append_cut Text.isBlank (line.dropWhile Text.isBlank)
        rw [mark] at whole
        rw [whole] at parts
        exact ⟨blanks, rest, blank, cut, parts⟩
      · cases directive
  · intro asks
    have unfiled : Text.dropLead? includeMark (line.dropWhile Text.isBlank) = none := by
      rw [Option.eq_none_iff_forall_ne_some]
      exact fun rest lead => asks.not_asksFile (asksFile_of_dropLead? lead)
    obtain ⟨blanks, rest, blank, cut, rfl⟩ := asks
    have start : (blanks ++ (completionMark ++ rest)).dropWhile Text.isBlank =
        completionMark ++ rest := by
      rw [completionMark_eq, dropWhile_blanks blank]
    have parts : completionMark = "%enableCompletio".toList ++ ['n'] := by
      decide
    have mark : Text.dropWhileEnd Text.isBlank (completionMark ++ rest) = completionMark := by
      rw [parts, List.append_assoc, List.singleton_append]
      exact Text.dropWhileEnd_append_of_last (by decide) cut
    unfold ofLine
    dsimp only
    rw [unfiled]
    simp only [start, mark, if_true]

theorem ofLine_eq_text_iff : ofLine line = .text ↔ ¬ AsksFile line ∧ ¬ AsksCompletion line := by
  rw [← ofLine_eq_includeFile_iff, ← ofLine_eq_enableCompletion_iff]
  cases ofLine line <;> simp

/-! ## The name on an include line -/

/-- White space, the mark of an include line, white space again and a name in double quotes, at
least one character and none of them a quote. Anything may stand behind it. -/
def Names (line name : List Char) : Prop :=
  ∃ blanks spaces tail, line = blanks ++ (includeMark ++ (spaces ++ '"' :: (name ++ '"' :: tail))) ∧
    (∀ c ∈ blanks, Text.isBlank c = true) ∧ (∀ c ∈ spaces, Text.isBlank c = true) ∧
    name ≠ [] ∧ '"' ∉ name

theorem Names.asksFile {name : List Char} (names : Names line name) : AsksFile line := by
  obtain ⟨blanks, spaces, tail, same, blank, -⟩ := names
  exact ⟨blanks, _, blank, same⟩

/-- Up to the first quote a text is what stands before it. -/
theorem takeWhile_quote {name : List Char} (tail : List Char) (plain : '"' ∉ name) :
    (name ++ '"' :: tail).takeWhile (· ≠ '"') = name ∧
      (name ++ '"' :: tail).dropWhile (· ≠ '"') = '"' :: tail := by
  have all : ∀ c ∈ name, decide (c ≠ '"') = true := by
    intro c mem
    exact decide_eq_true fun same => plain (same ▸ mem)
  rw [List.takeWhile_append_of_pos all, List.dropWhile_append_of_pos all]
  simp

theorem quotedName?_eq_some_iff {rest name : List Char} :
    quotedName? rest = some name ↔
      ∃ spaces tail, rest = spaces ++ '"' :: (name ++ '"' :: tail) ∧
        (∀ c ∈ spaces, Text.isBlank c = true) ∧ name ≠ [] ∧ '"' ∉ name := by
  constructor
  · intro read
    obtain ⟨spaces, blank, parts⟩ := exists_blanks rest
    unfold quotedName? at read
    split at read
    · next opened start =>
      rw [start] at parts
      dsimp only at read
      split at read
      · next given =>
        cases read
        have plain : '"' ∉ opened.takeWhile (· ≠ '"') := by
          intro mem
          have kept := List.all_eq_true.mp (List.all_takeWhile (p := (· ≠ '"'))) _ mem
          exact absurd kept (by decide)
        obtain ⟨c, tail, closing⟩ := List.exists_cons_of_ne_nil given.2
        have quote : c = '"' := by
          have first := List.head?_dropWhile_not (· ≠ '"') opened
          rw [closing] at first
          simpa using first
        have whole := List.takeWhile_append_dropWhile (p := (· ≠ '"')) (l := opened)
        rw [closing, quote] at whole
        exact ⟨spaces, tail, by rw [whole]; exact parts, blank, given.1, plain⟩
      · cases read
    · cases read
  · intro ⟨spaces, tail, same, blank, some_, plain⟩
    have start : rest.dropWhile Text.isBlank = '"' :: (name ++ '"' :: tail) := by
      rw [same, List.dropWhile_append_of_pos blank]
      exact List.dropWhile_cons_of_neg (by decide)
    obtain ⟨taken, left⟩ := takeWhile_quote tail plain
    unfold quotedName?
    simp only [start, taken, left]
    exact if_pos ⟨some_, List.cons_ne_nil _ _⟩

theorem ofLine_of_mark {blanks rest : List Char} (blank : ∀ c ∈ blanks, Text.isBlank c = true) :
    ofLine (blanks ++ (includeMark ++ rest)) = .includeFile (quotedName? rest) := by
  have start : (blanks ++ (includeMark ++ rest)).dropWhile Text.isBlank = includeMark ++ rest := by
    rw [includeMark_eq, dropWhile_blanks blank]
  unfold ofLine
  simp only [start, Text.dropLead?_append]

theorem ofLine_eq_names_iff {name : List Char} :
    ofLine line = .includeFile (some name) ↔ Names line name := by
  constructor
  · intro directive
    obtain ⟨blanks, rest, blank, same⟩ := ofLine_eq_includeFile_iff.mp ⟨_, directive⟩
    rw [same, ofLine_of_mark blank, includeFile.injEq, quotedName?_eq_some_iff] at directive
    obtain ⟨spaces, tail, parts, blank', some_, plain⟩ := directive
    exact ⟨blanks, spaces, tail, by rw [same, parts], blank, blank', some_, plain⟩
  · intro ⟨blanks, spaces, tail, same, blank, blank', some_, plain⟩
    rw [same, ofLine_of_mark blank, includeFile.injEq, quotedName?_eq_some_iff]
    exact ⟨spaces, tail, rfl, blank', some_, plain⟩

/-- A line gives one name. -/
theorem Names.unique {name other : List Char} (names : Names line name)
    (names' : Names line other) : name = other := by
  rw [← ofLine_eq_names_iff] at names names'
  simpa using names.symm.trans names'

end Directive

/-- No line of the text is a directive. -/
def DirectiveFree (text : String) : Prop :=
  ∀ line ∈ Text.lines text.toList, ¬ Directive.AsksFile line ∧ ¬ Directive.AsksCompletion line

theorem directiveFree_iff {text : String} :
    DirectiveFree text ↔ ∀ line ∈ Text.lines text.toList, Directive.ofLine line = .text :=
  forall_congr' fun _ => imp_congr_right fun _ => Directive.ofLine_eq_text_iff.symm

instance (text : String) : Decidable (DirectiveFree text) :=
  decidable_of_iff _ directiveFree_iff.symm

end NotebookKernel
