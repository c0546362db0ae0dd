import NotebookKernel.Proofs.Cell.LineMap
import NotebookKernel.Proofs.Cell.Patterns

/-!
Text without directives, and expanded text.

A text none of whose lines is a directive is expanded to itself, and the expansion asks for nothing:
the program is done before its first request. Expanded text is such a text where the included files
are, because what expansion adds to them, markers and empty lines, is no directive. So expanding a
second time changes nothing, under whatever name and with whatever files.
-/

namespace NotebookKernel

/-! ## Text without directives -/

namespace Expander

variable {p : Expander} {file : String} {s : CompletionState}

theorem line_of_text {text : List Char} (directive : Directive.ofLine text = .text)
    (number : Nat) :
    (p.line file number text).run.run s = .done (.ok (String.ofList text), s) := by
  unfold line
  rw [directive]
  rfl

theorem lines_of_text {texts : List (List Char)}
    (directives : ∀ text ∈ texts, Directive.ofLine text = .text) (number : Nat) :
    (p.lines file number texts).run.run s = .done (.ok (texts.map String.ofList), s) := by
  induction texts generalizing number with
  | nil => rfl
  | cons text rest ih =>
    rw [List.forall_mem_cons] at directives
    unfold lines
    rw [Layers.run_bind, line_of_text directives.1]
    simp only [Program.bind]
    rw [Layers.run_bind, ih directives.2]
    rfl

/-- A text without directives is what it is expanded to, and nothing is asked for. -/
theorem run_of_directiveFree {source : String} (free : DirectiveFree source) :
    (p.run source file).run.run s = .done (.ok source, s) := by
  have texts := directiveFree_iff.mp free
  have joined : "\n".intercalate ((Text.lines source.toList).map String.ofList) = source := by
    rw [← String.toList_inj, Text.toList_intercalate_lineFeed, List.map_map]
    simp [Function.comp_def, Text.unlines_lines]
  unfold run
  rw [map_eq_pure_bind, Layers.run_bind, lines_of_text texts]
  simp only [Program.bind, joined]
  rfl

end Expander

/-! ## Expanded text -/

/-- A line that starts with neither white space nor a percent sign is no directive. -/
theorem Directive.ofLine_of_head {c : Char} {rest : List Char} (visible : Text.isBlank c = false)
    (other : c ≠ '%') : ofLine (c :: rest) = .text := by
  have start : (c :: rest).dropWhile Text.isBlank = c :: rest :=
    List.dropWhile_cons_of_neg (by simp [visible])
  have unfiled : Text.dropLead? includeMark (c :: rest) = none := if_neg (Ne.symm other)
  have unmarked : Text.dropWhileEnd Text.isBlank (c :: rest) ≠ completionMark := by
    intro mark
    obtain ⟨cut, -, whole⟩ := Text.dropWhileEnd_append_cut Text.isBlank (c :: rest)
    rw [mark] at whole
    exact other (List.cons.inj whole).1
  unfold ofLine
  simp only [start, unfiled, if_neg unmarked]

theorem Directive.ofLine_swift_marker (file : String) (line : Nat) :
    ofLine (TargetLanguage.swift.marker file line).toList = .text := by
  rw [TargetLanguage.toList_swift_marker]
  exact ofLine_of_head (by decide) (by decide)

namespace Part

variable {p : Expander} {cell : String}

/-- What stands for a line has no line that is a directive, if the included file has none. -/
theorem ofLine_text {roots : List String} {log : List (Exchange Host)} {line : List Char}
    {part : Part} (here : part.For roots log line) (swift : p.language = .swift)
    (oneLine : '\n' ∉ line) (cellLine : '\n' ∉ cell.toList)
    (included : ∀ path text, ⟨.readText path, .ok text⟩ ∈ log → DirectiveFree text)
    (number : Nat) :
    ∀ line ∈ Text.lines (part.text p cell number).toList, Directive.ofLine line = .text := by
  cases part with
  | kept text =>
    obtain ⟨directive, rfl⟩ := here
    rw [Part.text, String.toList_ofList, Text.lines_of_not_mem oneLine, List.forall_mem_singleton]
    exact directive
  | blank =>
    have empty : Text.lines (Part.text p cell number .blank).toList = [[]] := by
      simp [Part.text, Text.lines]
    rw [empty, List.forall_mem_singleton]
    decide
  | file name text =>
    obtain ⟨directive, root, -, read⟩ := here
    have nameLine : '\n' ∉ name.toList := fun mem =>
      oneLine (Directive.mem_of_ofLine directive mem)
    have marker : ∀ file line, '\n' ∉ file.toList →
        Text.lines (p.language.marker file line).toList = [(p.language.marker file line).toList] ∧
          Directive.ofLine (p.language.marker file line).toList = .text := by
      intro file line oneLine
      rw [swift]
      exact ⟨Text.lines_of_not_mem (TargetLanguage.swiftMarkers.marker_oneLine file line oneLine),
        Directive.ofLine_swift_marker file line⟩
    obtain ⟨opened, opening⟩ := marker name 1 nameLine
    obtain ⟨closed, closing⟩ := marker cell number cellLine
    rw [Part.text, Expander.splice, Text.toList_intercalate_lineFeed, Text.lines_unlines (by simp)]
    intro line mem
    simp only [List.map_cons, List.map_nil, List.flatMap_cons, List.flatMap_nil, opened, closed,
      List.mem_append, List.mem_singleton, List.append_nil] at mem
    rcases mem with rfl | mem | rfl | mem
    · exact opening
    · exact directiveFree_iff.mp (included _ text read) line mem
    · exact closing
    · obtain rfl : line = [] := by simpa [Text.lines] using mem
      decide

theorem ofLine_texts {roots : List String} {log : List (Exchange Host)}
    {lines : List (List Char)} {parts : List Part}
    (here : List.Forall₂ (fun line part => part.For roots log line) lines parts)
    (swift : p.language = .swift) (oneLine : ∀ line ∈ lines, '\n' ∉ line)
    (cellLine : '\n' ∉ cell.toList)
    (included : ∀ path text, ⟨.readText path, .ok text⟩ ∈ log → DirectiveFree text) :
    ∀ part ∈ parts, ∀ number, ∀ line ∈ Text.lines (part.text p cell number).toList,
      Directive.ofLine line = .text := by
  induction here with
  | nil => exact List.forall_mem_nil _
  | cons first _ ih =>
    rw [List.forall_mem_cons] at oneLine ⊢
    exact ⟨ofLine_text first swift oneLine.1 cellLine included, ih oneLine.2⟩

end Part

namespace Expander

variable {p : Expander} {source code file : String} {s after : CompletionState}
  {log : List (Exchange Host)}

/-- Expanded text has no directives where the included files have none. -/
theorem directiveFree_of_run (swift : p.language = .swift) (cellLine : '\n' ∉ file.toList)
    (run : ((p.run source file).run.run s).Gives log (.ok code, after))
    (included : ∀ path text, ⟨.readText path, .ok text⟩ ∈ log → DirectiveFree text) :
    DirectiveFree code := by
  obtain ⟨parts, here, rfl⟩ := run_gives run
  have oneLine : ∀ line ∈ Text.lines source.toList, '\n' ∉ line :=
    fun _ => Text.not_mem_of_mem_lines
  have some : parts ≠ [] := by
    rintro rfl
    exact Text.lines_ne_nil _ (List.forall₂_nil_right_iff.mp here)
  have texts := Part.ofLine_texts here swift oneLine cellLine included
  rw [directiveFree_iff, Text.toList_intercalate_lineFeed, Text.lines_unlines (by simp [some])]
  intro line mem
  simp only [List.map_map, List.mem_flatMap, List.mem_map] at mem
  obtain ⟨_, ⟨⟨part, number⟩, numbered, rfl⟩, mem⟩ := mem
  exact texts part (List.fst_mem_of_mem_zipIdx numbered) number _ mem

/-- A text without directives is expanded to itself, byte for byte: nothing is broadcast, no file is
read, and completion is left as it is. What a text is expanded to has no directives if the files
that were included for it have none, so it is expanded to itself, under any name and with any
files. -/
theorem run_stable :
    (DirectiveFree source → (p.run source file).run.run s = .done (.ok source, s)) ∧
    (p.language = .swift → '\n' ∉ file.toList →
      ((p.run source file).run.run s).Gives log (.ok code, after) →
      (∀ path text, ⟨.readText path, .ok text⟩ ∈ log → DirectiveFree text) →
      DirectiveFree code ∧ ∀ (q : Expander) (file' : String) (t : CompletionState),
        (q.run code file').run.run t = .done (.ok code, t)) := by
  refine ⟨run_of_directiveFree, fun swift cellLine run included => ?_⟩
  have free := directiveFree_of_run swift cellLine run included
  exact ⟨free, fun q file' t => run_of_directiveFree free⟩

/-- A text with a carriage return, empty lines and a mark that does not start its line, and a cell
that includes a file. -/
theorem run_stable_withLibrary :
    (Kernel.withLibrary.expander.run "x\r\n\n// %include \"a\"\n" "<Cell 1>").run.run ⟨true, false⟩ =
        .done (.ok "x\r\n\n// %include \"a\"\n", ⟨true, false⟩) ∧
      ∀ (q : Expander) (file : String) (t : CompletionState),
        (q.run ("x\n#sourceLocation(file: \"a\", line: 1)\ny\n" ++
            "#sourceLocation(file: \"<Cell 1>\", line: 2)\n\n") file).run.run t =
          .done (.ok ("x\n#sourceLocation(file: \"a\", line: 1)\ny\n" ++
            "#sourceLocation(file: \"<Cell 1>\", line: 2)\n\n"), t) := by
  have expanded : ((Kernel.withLibrary.expander.run "x\n %include \"a\" z\n" "<Cell 1>").run.run
      ⟨true, false⟩).Gives [⟨Host.Request.readText "lib/a", Except.ok "y"⟩]
      (.ok ("x\n#sourceLocation(file: \"a\", line: 1)\ny\n" ++
        "#sourceLocation(file: \"<Cell 1>\", line: 2)\n\n"), ⟨true, false⟩) :=
    .ask _ _ (.done _)
  have included : ∀ path text, ⟨Host.Request.readText path, Except.ok text⟩ ∈
      [(⟨Host.Request.readText "lib/a", Except.ok "y"⟩ : Exchange Host)] → DirectiveFree text := by
    intro path text mem
    cases List.mem_singleton.mp mem
    decide
  exact ⟨(@run_stable _ _ "" _ _ ⟨true, false⟩ []).1 (by decide),
    (run_stable.2 rfl (by decide) expanded included).2⟩

end Expander

end NotebookKernel
