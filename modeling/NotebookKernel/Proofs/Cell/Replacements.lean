import NotebookKernel.Proofs.Cell.Availability
import NotebookKernel.Proofs.Text.Utf8

/-!
Expansion against the files that are there: every line of a cell fares as its own text and the files
say, and the first line that cannot be replaced decides for the cell.

`Fares` says of one line what it is replaced by, or why it cannot be; `Reference` puts the lines
together, and there is one outcome for a cell (`Reference.unique`). The requests of an expansion are
those of the lines that were treated, in order, so completion is switched on by exactly the lines
that ask for it and stand before the one that is refused (`Took`).
-/

namespace NotebookKernel

/-! ## Files -/

/-- What there is at a path. -/
inductive Node where
  | missing
  | directory
  | unreadable (fault : StreamFault)
  | file (content : Bytes)

/-- What there is at each path. -/
structure FileSystem where
  node : String → Node

namespace FileSystem

/-- At the path there is a file whose content is the text in UTF-8. -/
def Holds (files : FileSystem) (path text : String) : Prop :=
  files.node path = .file (Utf8.encodeString text)

/-- Reading succeeds where there is a text, with that text, and fails in some way elsewhere. -/
def Answers (files : FileSystem) (log : List (Exchange Host)) : Prop :=
  ∀ path answer, ⟨Host.Request.readText path, answer⟩ ∈ log →
    ∀ text, answer = Except.ok text ↔ files.Holds path text

/-- The first of the directories under which the file is a text has this text. -/
def Provides (files : FileSystem) (roots : List String) (name text : String) : Prop :=
  ∃ before root after, roots = before ++ root :: after ∧
    (∀ earlier ∈ before, ∀ other, ¬ files.Holds (Path.join earlier name) other) ∧
    files.Holds (Path.join root name) text

/-- The file is a text under none of the directories. -/
def Lacks (files : FileSystem) (roots : List String) (name : String) : Prop :=
  ∀ root ∈ roots, ∀ text, ¬ files.Holds (Path.join root name) text

/-- The text at a path, or the failure to read one. -/
def read (files : FileSystem) (path : String) : Except Error String :=
  match files.node path with
  | .missing => .error (.stream .notFound)
  | .directory => .error (.stream .isADirectory)
  | .unreadable fault => .error (.stream fault)
  | .file content =>
    match Utf8.decodeString? content with
    | some text => .ok text
    | none => .error (.stream .notText)

variable {files : FileSystem} {root name text : String} {roots : List String}

theorem decodeString?_eq_some_iff {content : Bytes} :
    Utf8.decodeString? content = some text ↔ content = Utf8.encodeString text := by
  unfold Utf8.decodeString? Utf8.encodeString
  rw [← Utf8.decode_eq_ok_iff]
  cases Utf8.decode content with
  | error => simp
  | ok chars => simp [← String.toList_inj]

theorem read_eq_ok_iff {path : String} : files.read path = .ok text ↔ files.Holds path text := by
  unfold read Holds
  cases files.node path with
  | file content =>
    rw [Node.file.injEq, ← decodeString?_eq_some_iff]
    cases decoded : Utf8.decodeString? content <;> simp [decoded]
  | _ => simp

theorem Holds.unique {path other : String} (holds : files.Holds path text)
    (holds' : files.Holds path other) : text = other := by
  rw [← read_eq_ok_iff] at holds holds'
  exact Except.ok.inj (holds.symm.trans holds')

theorem Answers.left {first second : List (Exchange Host)}
    (answers : files.Answers (first ++ second)) : files.Answers first :=
  fun path answer mem => answers path answer (List.mem_append_left _ mem)

theorem Answers.right {first second : List (Exchange Host)}
    (answers : files.Answers (first ++ second)) : files.Answers second :=
  fun path answer mem => answers path answer (List.mem_append_right _ mem)

theorem provides_cons_iff : files.Provides (root :: roots) name text ↔
    files.Holds (Path.join root name) text ∨
      (∀ other, ¬ files.Holds (Path.join root name) other) ∧ files.Provides roots name text := by
  constructor
  · intro ⟨before, found, after, same, passed, holds⟩
    cases before with
    | nil =>
      cases same
      exact .inl holds
    | cons first before =>
      cases same
      rw [List.forall_mem_cons] at passed
      exact .inr ⟨passed.1, before, found, after, rfl, passed.2, holds⟩
  · intro here
    obtain holds | ⟨passed, before, found, after, same, others, holds⟩ := here
    · exact ⟨[], root, roots, rfl, List.forall_mem_nil _, holds⟩
    · exact ⟨root :: before, found, after, by rw [same]; rfl,
        List.forall_mem_cons.mpr ⟨passed, others⟩, holds⟩

theorem Provides.unique {other : String} (provides : files.Provides roots name text)
    (provides' : files.Provides roots name other) : text = other := by
  induction roots with
  | nil =>
    obtain ⟨before, root, after, same, -⟩ := provides
    exact absurd same (by simp)
  | cons root roots ih =>
    rw [provides_cons_iff] at provides provides'
    obtain holds | ⟨passed, later⟩ := provides
    · obtain holds' | ⟨passed', -⟩ := provides'
      · exact holds.unique holds'
      · exact absurd holds (passed' text)
    · obtain holds' | ⟨-, later'⟩ := provides'
      · exact absurd holds' (passed other)
      · exact ih later later'

theorem Provides.not_lacks (provides : files.Provides roots name text) :
    ¬ files.Lacks roots name := by
  obtain ⟨before, root, after, same, -, holds⟩ := provides
  intro lacks
  exact lacks root (by rw [same]; exact List.mem_append_right _ List.mem_cons_self) text holds

/-- Surroundings with these files. -/
def host (files : FileSystem) : (r : Host.Request) → Host.Answer r
  | .readText path => files.read path
  | r => Host.constant r

theorem answers_play {α : Type} (files : FileSystem) (act : Act α) :
    files.Answers (act.play files.host).1 := by
  intro path answer mem text
  have same : answer = files.read path := Program.answer_of_mem_play mem
  rw [same]
  exact read_eq_ok_iff

/-- A search finds the text of the first directory that has one. -/
theorem findText_provides {text? : Option String} :
    ∀ {log : List (Exchange Host)}, (Expander.findText name roots).Gives log text? →
      files.Answers log →
      match text? with
      | some text => files.Provides roots name text
      | none => files.Lacks roots name := by
  induction roots with
  | nil =>
    intro log run _
    obtain ⟨-, same⟩ := run.of_done
    rw [same]
    exact List.forall_mem_nil _
  | cons root rest ih =>
    intro log run answers
    obtain ⟨answer, later, same, rest⟩ := run.of_ask
    subst same
    have here := answers _ answer List.mem_cons_self
    cases answer with
    | ok text =>
      obtain ⟨-, same⟩ := rest.of_done
      rw [same]
      exact provides_cons_iff.mpr (.inl ((here text).mp rfl))
    | error e =>
      have passed : ∀ other, ¬ files.Holds (Path.join root name) other := fun other holds =>
        nomatch (here other).mpr holds
      have found := ih rest fun path answer mem => answers path answer (List.mem_cons_of_mem _ mem)
      cases text? with
      | some text => exact provides_cons_iff.mpr (.inr ⟨passed, found⟩)
      | none => exact List.forall_mem_cons.mpr ⟨passed, found⟩

end FileSystem

/-! ## How a line fares -/

/-- What a line of a cell is replaced by, or why it cannot be: the line is kept, or it gives way to
an empty line, or to a file between markers. -/
inductive Fares (p : Expander) (files : FileSystem) (cell : String) (number : Nat) :
    List Char → Except ExpansionError String → Prop
  | kept {line : List Char} : ¬ Directive.AsksFile line → ¬ Directive.AsksCompletion line →
    Fares p files cell number line (.ok (String.ofList line))
  | blank {line : List Char} : Directive.AsksCompletion line →
    Fares p files cell number line (.ok "")
  | included {line name : List Char} {text : String} : Directive.Names line name →
    files.Provides p.includePath.roots (String.ofList name) text →
    Fares p files cell number line (.ok (p.language.marker (String.ofList name) 1 ++ "\n" ++ text ++
      "\n" ++ p.language.marker cell number ++ "\n"))
  | unquoted {line : List Char} : Directive.AsksFile line → (∀ name, ¬ Directive.Names line name) →
    Fares p files cell number line (.error (.unquotedName number))
  | lacking {line name : List Char} : Directive.Names line name →
    files.Lacks p.includePath.roots (String.ofList name) →
    Fares p files cell number line
      (.error (.fileNotFound number (String.ofList name) p.includePath.roots))

section Lines

variable {p : Expander} {files : FileSystem} {cell : String} {number : Nat} {line : List Char}
  {lines : List (List Char)} {log : List (Exchange Host)} {s after : CompletionState}

/-- A line fares as its directive has it. -/
theorem Fares.of_directive {fate : Except ExpansionError String}
    (fares : Fares p files cell number line fate) :
    match Directive.ofLine line with
    | .text => fate = .ok (String.ofList line)
    | .enableCompletion => fate = .ok ""
    | .includeFile none => fate = .error (.unquotedName number)
    | .includeFile (some name) =>
      (∃ text, files.Provides p.includePath.roots (String.ofList name) text ∧
        fate = .ok (p.language.marker (String.ofList name) 1 ++ "\n" ++ text ++ "\n" ++
          p.language.marker cell number ++ "\n")) ∨
      files.Lacks p.includePath.roots (String.ofList name) ∧
        fate = .error (.fileNotFound number (String.ofList name) p.includePath.roots) := by
  cases fares with
  | kept unfiled unasked => rw [Directive.ofLine_eq_text_iff.mpr ⟨unfiled, unasked⟩]
  | blank asks => rw [Directive.ofLine_eq_enableCompletion_iff.mpr asks]
  | included names provides =>
    rw [Directive.ofLine_eq_names_iff.mpr names]
    exact .inl ⟨_, provides, rfl⟩
  | unquoted asks unnamed =>
    obtain ⟨name?, directive⟩ := Directive.ofLine_eq_includeFile_iff.mpr asks
    cases name? with
    | none => rw [directive]
    | some name => exact absurd (Directive.ofLine_eq_names_iff.mp directive) (unnamed name)
  | lacking names lacks =>
    rw [Directive.ofLine_eq_names_iff.mpr names]
    exact .inr ⟨lacks, rfl⟩

/-- A line fares in one way. -/
theorem Fares.unique {fate other : Except ExpansionError String}
    (fares : Fares p files cell number line fate) (fares' : Fares p files cell number line other) :
    fate = other := by
  have first := fares.of_directive
  have second := fares'.of_directive
  cases directive : Directive.ofLine line with
  | text | enableCompletion =>
    rw [directive] at first second
    exact first.trans second.symm
  | includeFile name? =>
    rw [directive] at first second
    cases name? with
    | none => exact first.trans second.symm
    | some name =>
      obtain ⟨text, provides, same⟩ | ⟨lacks, same⟩ := first
      · obtain ⟨text', provides', same'⟩ | ⟨lacks, -⟩ := second
        · rw [same, same', provides.unique provides']
        · exact absurd lacks provides.not_lacks
      · obtain ⟨text', provides', -⟩ | ⟨-, same'⟩ := second
        · exact absurd lacks provides'.not_lacks
        · exact same.trans same'.symm

theorem Expander.splice_eq (p : Expander) (name text cell : String) (number : Nat) :
    p.splice name text cell number =
      p.language.marker name 1 ++ "\n" ++ text ++ "\n" ++ p.language.marker cell number ++
        "\n" := by
  rw [← String.toList_inj, splice, Text.toList_intercalate_lineFeed]
  simp [Text.unlines]

/-- A line is replaced, or refused, as it fares with the files there are. -/
theorem Expander.line_fares {result : Except ExpansionError String}
    (run : ((p.line cell number line).run.run s).Gives log (result, after))
    (answers : files.Answers log) : Fares p files cell number line result := by
  unfold Expander.line at run
  cases directive : Directive.ofLine line with
  | text =>
    obtain ⟨unfiled, unasked⟩ := Directive.ofLine_eq_text_iff.mp directive
    rw [directive] at run
    obtain ⟨-, same⟩ := run.of_done
    cases same
    exact .kept unfiled unasked
  | enableCompletion =>
    have asks := Directive.ofLine_eq_enableCompletion_iff.mp directive
    rw [directive] at run
    obtain ⟨answer, log, -, rest⟩ := run.of_ask
    cases answer with
    | ok _ =>
      obtain ⟨-, same⟩ := rest.of_done
      cases same
      exact .blank asks
    | error e =>
      obtain ⟨_, _, -, warned⟩ := rest.of_ask
      obtain ⟨-, same⟩ := warned.of_done
      cases same
      exact .blank asks
  | includeFile name? =>
    rw [directive] at run
    cases name? with
    | none =>
      have asks := Directive.ofLine_eq_includeFile_iff.mp ⟨none, directive⟩
      obtain ⟨-, same⟩ := run.of_done
      cases same
      refine .unquoted asks fun name names => ?_
      rw [← Directive.ofLine_eq_names_iff, directive] at names
      simp at names
    | some name =>
      have names := Directive.ofLine_eq_names_iff.mp directive
      dsimp only at run
      rw [includeText_run] at run
      obtain ⟨first, second, found, same, search, rest⟩ := run.of_bind
      rw [same] at answers
      have searched := FileSystem.findText_provides search answers.left
      cases found with
      | some text =>
        obtain ⟨-, same⟩ := rest.of_done
        cases same
        rw [splice_eq]
        exact .included names searched
      | none =>
        obtain ⟨-, same⟩ := rest.of_done
        cases same
        exact .lacking names searched

/-! ## How the lines of a cell fare together -/

/-- The lines of a cell are replaced one by one, up to the first that cannot be. The lines that were
reached are the second result. -/
inductive Treated (p : Expander) (files : FileSystem) (cell : String) :
    Nat → List (List Char) → Except ExpansionError (List String) → List (List Char) → Prop
  | none {number : Nat} : Treated p files cell number [] (.ok []) []
  | refused {number : Nat} {line : List Char} {later : List (List Char)} {e : ExpansionError} :
    Fares p files cell number line (.error e) →
      Treated p files cell number (line :: later) (.error e) [line]
  | passed {number : Nat} {line : List Char} {later reached : List (List Char)} {piece : String}
      {result : Except ExpansionError (List String)} :
    Fares p files cell number line (.ok piece) →
      Treated p files cell (number + 1) later result reached →
      Treated p files cell number (line :: later) (result.map (piece :: ·)) (line :: reached)

/-- Every line has a replacement, the first one as the line with the given number. -/
def AllReplaced (p : Expander) (files : FileSystem) (cell : String) (number : Nat)
    (lines : List (List Char)) (pieces : List String) : Prop :=
  List.Forall₂ (fun line piece => Fares p files cell line.2 line.1 (.ok piece))
    (lines.zipIdx number) pieces

/-- What becomes of a cell, and the lines that were reached: if all its lines have replacements,
these with line feeds between them, and otherwise the error of the first line that has none. -/
inductive Reference (p : Expander) (files : FileSystem) (cell : String) (lines : List (List Char)) :
    Except ExpansionError String → List (List Char) → Prop
  | replaced {pieces : List String} : AllReplaced p files cell 1 lines pieces →
    Reference p files cell lines (.ok ("\n".intercalate pieces)) lines
  | refused {front later : List (List Char)} {line : List Char} {pieces : List String}
      {e : ExpansionError} :
    lines = front ++ line :: later → AllReplaced p files cell 1 front pieces →
      Fares p files cell (front.length + 1) line (.error e) →
      Reference p files cell lines (.error e) (front ++ [line])

/-- What was asked for the lines that were reached, each of them getting what it calls for, in
order, and what that leaves the kernel to know about completion. -/
def Took (roots : List String) (s : CompletionState) (reached : List (List Char))
    (log : List (Exchange Host)) (after : CompletionState) : Prop :=
  ∃ treatments : List Treatment, treatments.map Treatment.line = reached ∧
    log = Treatment.log treatments ∧ (∀ t ∈ treatments, t.Apt roots s.supported) ∧
    Expander.Leaves s treatments after

variable {reached : List (List Char)} {pieces : List String}

theorem Treated.unique {result other : Except ExpansionError (List String)}
    {others : List (List Char)} (treated : Treated p files cell number lines result reached)
    (treated' : Treated p files cell number lines other others) :
    other = result ∧ others = reached := by
  induction treated generalizing other others with
  | none =>
    cases treated'
    exact ⟨rfl, rfl⟩
  | refused fares =>
    cases treated' with
    | refused fares' =>
      cases fares.unique fares'
      exact ⟨rfl, rfl⟩
    | passed fares' => exact nomatch fares.unique fares'
  | passed fares _ ih =>
    cases treated' with
    | refused fares' => exact nomatch fares.unique fares'
    | passed fares' later' =>
      cases fares.unique fares'
      obtain ⟨same, same'⟩ := ih later'
      exact ⟨by rw [same], by rw [same']⟩

/-- Lines that all have replacements are passed, whatever follows them. -/
theorem AllReplaced.treated {later : List (List Char)}
    {result : Except ExpansionError (List String)}
    (all : AllReplaced p files cell number lines pieces)
    (rest : Treated p files cell (number + lines.length) later result reached) :
    Treated p files cell number (lines ++ later) (result.map (pieces ++ ·)) (lines ++ reached) := by
  induction lines generalizing number pieces with
  | nil =>
    cases all
    cases result <;> exact rest
  | cons line lines ih =>
    cases all with
    | @cons _ piece _ pieces first others =>
      have onward := ih others (by rwa [List.length_cons, Nat.add_comm lines.length,
        ← Nat.add_assoc] at rest)
      have whole := Treated.passed first onward
      cases result <;> exact whole

/-- All lines have replacements, or one of them has none and those before it do. -/
theorem Treated.split {result : Except ExpansionError (List String)}
    (treated : Treated p files cell number lines result reached) :
    (∃ pieces, result = .ok pieces ∧ reached = lines ∧
      AllReplaced p files cell number lines pieces) ∨
    ∃ front line later pieces e, result = .error e ∧ lines = front ++ line :: later ∧
      reached = front ++ [line] ∧ AllReplaced p files cell number front pieces ∧
      Fares p files cell (number + front.length) line (.error e) := by
  induction treated with
  | none => exact .inl ⟨[], rfl, rfl, .nil⟩
  | @refused number line later e fares =>
    exact .inr ⟨[], line, later, [], e, rfl, rfl, rfl, .nil, fares⟩
  | @passed number first _ _ piece _ fares _ ih =>
    obtain ⟨pieces, same, same', all⟩ |
      ⟨front, line, later, pieces, e, same, parts, same', all, last⟩ := ih
    · exact .inl ⟨piece :: pieces, by rw [same]; rfl, by rw [same'], .cons fares all⟩
    · refine .inr ⟨first :: front, line, later, piece :: pieces, e, by rw [same]; rfl,
        by rw [parts]; rfl, by rw [same']; rfl, .cons fares all, ?_⟩
      rw [List.length_cons, Nat.add_comm front.length, ← Nat.add_assoc]
      exact last

theorem reference_iff {found : Except ExpansionError String} :
    Reference p files cell lines found reached ↔
      ∃ result, found = result.map ("\n".intercalate ·) ∧
        Treated p files cell 1 lines result reached := by
  constructor
  · intro reference
    cases reference with
    | @replaced pieces all =>
      have whole := all.treated .none
      rw [List.append_nil] at whole
      exact ⟨.ok pieces, rfl, by simpa [Except.map] using whole⟩
    | @refused front later line pieces e same all fares =>
      rw [Nat.add_comm] at fares
      exact ⟨.error e, rfl, same ▸ all.treated (.refused fares)⟩
  · intro ⟨result, same, treated⟩
    obtain ⟨pieces, same', reached', all⟩ |
      ⟨front, line, later, pieces, e, same', parts, reached', all, fares⟩ := treated.split
    · rw [same, same', reached']
      exact .replaced all
    · rw [same, same', reached']
      rw [Nat.add_comm] at fares
      exact .refused parts all fares

/-- There is one outcome for a cell. -/
theorem Reference.unique {found other : Except ExpansionError String} {others : List (List Char)}
    (reference : Reference p files cell lines found reached)
    (reference' : Reference p files cell lines other others) :
    other = found ∧ others = reached := by
  obtain ⟨_, same, treated⟩ := reference_iff.mp reference
  obtain ⟨_, same', treated'⟩ := reference_iff.mp reference'
  obtain ⟨pieces, reached'⟩ := treated.unique treated'
  exact ⟨by rw [same, same', pieces], reached'⟩

/-- The lines of a cell are replaced, or one refused, as they fare, and each line that is reached
gets what it calls for. -/
theorem Expander.lines_treated {lines : List (List Char)} :
    ∀ {number : Nat} {log : List (Exchange Host)} {s after : CompletionState}
      {result : Except ExpansionError (List String)},
      ((p.lines cell number lines).run.run s).Gives log (result, after) → files.Answers log →
      ∃ reached, Treated p files cell number lines result reached ∧
        Took p.includePath.roots s reached log after := by
  induction lines with
  | nil =>
    intro number log s after result run _
    obtain ⟨same, same'⟩ := run.of_done
    cases same
    cases same'
    exact ⟨[], .none, [], rfl, rfl, List.forall_mem_nil _, .refl _ (List.forall_mem_nil _)⟩
  | cons line rest ih =>
    intro number log s after result run answers
    unfold Expander.lines at run
    rw [Layers.run_bind] at run
    obtain ⟨first, second, ⟨replaced, middle⟩, same, left, right⟩ := run.of_bind
    subst same
    obtain ⟨apt, -, leaves⟩ := line_treats left
    have fares := line_fares left answers.left
    cases replaced with
    | error e =>
      obtain ⟨same, same'⟩ := right.of_done
      cases same
      cases same'
      exact ⟨[line], .refused fares, [⟨line, first⟩], rfl, by simp [Treatment.log],
        List.forall_mem_singleton.mpr apt, leaves⟩
    | ok piece =>
      dsimp only at right
      rw [Layers.run_bind] at right
      obtain ⟨third, fourth, ⟨pieces, last⟩, same, others, rest⟩ := right.of_bind
      subst same
      obtain ⟨reached, treated, treatments, lines, log, apts, later⟩ := ih others answers.right.left
      -- putting the pieces together asks for nothing
      obtain ⟨nothing, same, same'⟩ : fourth = [] ∧ after = last ∧
          result = pieces.map (piece :: ·) := by
        cases pieces <;>
        · obtain ⟨same, same'⟩ := rest.of_done
          cases same'
          exact ⟨same, rfl, rfl⟩
      rw [leaves.supported] at apts
      refine ⟨line :: reached, same' ▸ .passed fares treated, ⟨line, first⟩ :: treatments, ?_, ?_,
        List.forall_mem_cons.mpr ⟨apt, apts⟩, same ▸ leaves.append later⟩
      · rw [List.map_cons, lines]
      · rw [nothing, List.append_nil, log, Treatment.log_cons]

/-- What becomes of a cell is what the reference says. -/
theorem Expander.run_treated {source : String} {result : Except ExpansionError String}
    (run : ((p.run source cell).run.run s).Gives log (result, after))
    (answers : files.Answers log) :
    ∃ reached, Reference p files cell (Text.lines source.toList) result reached ∧
      Took p.includePath.roots s reached log after := by
  rw [Expander.run, map_eq_pure_bind, Layers.run_bind] at run
  obtain ⟨first, second, ⟨pieces, last⟩, same, lines, rest⟩ := run.of_bind
  subst same
  obtain ⟨reached, treated, took⟩ := lines_treated lines answers.left
  obtain ⟨nothing, same, same'⟩ : second = [] ∧ after = last ∧
      result = pieces.map ("\n".intercalate ·) := by
    cases pieces <;>
    · obtain ⟨same, same'⟩ := rest.of_done
      cases same'
      exact ⟨same, rfl, rfl⟩
  refine ⟨reached, reference_iff.mpr ⟨pieces, same', treated⟩, ?_⟩
  rw [nothing, List.append_nil, same]
  exact took

theorem AllReplaced.fares_of_mem (all : AllReplaced p files cell number lines pieces)
    (mem : line ∈ lines) : ∃ place piece, Fares p files cell place line (.ok piece) := by
  induction lines generalizing number pieces with
  | nil => exact absurd mem List.not_mem_nil
  | cons first lines ih =>
    cases all with
    | cons here others =>
      obtain same | later := List.mem_cons.mp mem
      · exact ⟨_, _, same ▸ here⟩
      · exact ih others later

/-- A cell is refused exactly if one of its lines asks for a file and either gives no name in quotes
or names a file that is a text nowhere. -/
theorem Reference.error_iff {found : Except ExpansionError String}
    (reference : Reference p files cell lines found reached) :
    (∃ e, found = .error e) ↔ ∃ line ∈ lines, Directive.AsksFile line ∧
      ∀ name, Directive.Names line name →
        files.Lacks p.includePath.roots (String.ofList name) := by
  cases reference with
  | replaced all =>
    constructor
    · intro ⟨e, same⟩
      cases same
    · intro ⟨line, mem, asks, spoiled⟩
      obtain ⟨place, piece, fares⟩ := all.fares_of_mem mem
      cases fares with
      | kept unfiled => exact absurd asks unfiled
      | blank completion => exact absurd asks completion.not_asksFile
      | included names provides => exact absurd (spoiled _ names) provides.not_lacks
  | @refused front later line pieces e same all fares =>
    refine ⟨fun _ => ⟨line, by rw [same]; exact List.mem_append_right _ List.mem_cons_self, ?_⟩,
      fun _ => ⟨e, rfl⟩⟩
    cases fares with
    | unquoted asks unnamed => exact ⟨asks, fun name names => absurd names (unnamed name)⟩
    | lacking names lacks =>
      exact ⟨names.asksFile, fun name names' => names.unique names' ▸ lacks⟩

end Lines

/-- An expansion with the files that are there comes to an end, and to what the reference says: the
replacements of all lines, joined by line feeds, or the error of the first line that has none. It
does for the lines it reaches what each calls for, in order, and for no others, so that completion
is asked for by the lines before the one that is refused. It fails exactly if a line asks for a file
without a name in quotes, or for one that is nowhere a text. -/
theorem Expander.run_reference (p : Expander) (files : FileSystem) (source cell : String)
    (s : CompletionState) :
    (∃ log result after, files.Answers log ∧
      ((p.run source cell).run.run s).Gives log (result, after)) ∧
    ∀ log result after, files.Answers log →
      ((p.run source cell).run.run s).Gives log (result, after) →
      ∃ reached, (∀ found others,
          Reference p files cell (Text.lines source.toList) found others ↔
            found = result ∧ others = reached) ∧
        Took p.includePath.roots s reached log after ∧
        ((∃ e, result = .error e) ↔ ∃ line ∈ Text.lines source.toList, Directive.AsksFile line ∧
          ∀ name, Directive.Names line name →
            files.Lacks p.includePath.roots (String.ofList name)) := by
  constructor
  · have run := Program.gives_play files.host ((p.run source cell).run.run s)
    exact ⟨_, _, _, files.answers_play _, run⟩
  · intro log result after answers run
    obtain ⟨reached, reference, took⟩ := run_treated run answers
    refine ⟨reached, fun found others => ⟨reference.unique, fun same => ?_⟩, took,
      reference.error_iff⟩
    rw [same.1, same.2]
    exact reference

/-- Under the first directory a directory, a file that is no text, and a text; under the second one
texts in place of the directory and of the text. -/
def FileSystem.mixed : FileSystem where
  node
    | "a/x" => .directory
    | "a/y" => .file [0xFF]
    | "a/z" => .file (Utf8.encodeString "one")
    | "b/x" => .file (Utf8.encodeString "two\n")
    | "b/z" => .file (Utf8.encodeString "three")
    | _ => .missing

/-- A Swift kernel that looks for files in three directories. -/
def Expander.searching : Expander :=
  ⟨.swift, ⟨some "a", some "b", ["c"]⟩⟩

/-- A cell that asks for completion before and after a file that is not found. -/
def mixedCell : String :=
  " %enableCompletion\n%include \"x\" y\nk\n%include \"z\"\n%include \"y\"\n%enableCompletion"

/-- A directory and a file that is no text are passed over in a search, so the fifth line is
refused. The line before it that asks for completion has been heard. -/
theorem Expander.run_reference_mixed :
    ∃ log reached after, FileSystem.mixed.Answers log ∧
      ((searching.run mixedCell "<Cell 1>").run.run ⟨true, false⟩).Gives log
        (.error (.fileNotFound 5 "y" ["a", "b", "c"]), after) ∧
      Reference searching .mixed "<Cell 1>" (Text.lines mixedCell.toList)
        (.error (.fileNotFound 5 "y" ["a", "b", "c"])) reached ∧
      Took ["a", "b", "c"] ⟨true, false⟩ reached log after ∧ after.enabled = true := by
  have run := Program.gives_play FileSystem.mixed.host
    ((searching.run mixedCell "<Cell 1>").run.run ⟨true, false⟩)
  have result : (((searching.run mixedCell "<Cell 1>").run.run ⟨true, false⟩).play
      FileSystem.mixed.host).2 =
        (.error (.fileNotFound 5 "y" ["a", "b", "c"]), ⟨true, true⟩) := by
    decide +kernel
  rw [result] at run
  have answers := FileSystem.mixed.answers_play
    ((searching.run mixedCell "<Cell 1>").run.run ⟨true, false⟩)
  obtain ⟨reached, unique, took, -⟩ := (run_reference searching .mixed _ _ _).2 _ _ _ answers run
  exact ⟨_, reached, _, answers, run, (unique _ _).mpr ⟨rfl, rfl⟩, took, rfl⟩

end NotebookKernel
