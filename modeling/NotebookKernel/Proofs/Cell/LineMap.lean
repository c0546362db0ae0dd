import Mathlib.Data.List.Forall2
import NotebookKernel.Cell.Execution
import NotebookKernel.Proofs.Program.Trace
import NotebookKernel.Proofs.Text.Numeral

/-!
Diagnostics name the line that their author wrote.

The target attributes every line of submitted code to a location: a marker line places the line
after it, and any other line is followed by the next line of its file. `MarkerReader.locate` is that
reading. `Kernel.locate_submitted` says what it yields for the code that a cell becomes: each line
of the cell at its own place, and each included text at the place of its file. The proof goes
through the lines of the cell. Whatever stands in place of line `i` leaves the reading at line `i +
1` of the cell, because the marker behind an included text counts the blank line after it as the
include line itself.
-/

namespace NotebookKernel

/-- A line of a file, as diagnostics name it. -/
structure Location where
  file : String
  line : Nat
  deriving Repr, DecidableEq

/-- The line after it. -/
def Location.next (here : Location) : Location :=
  { here with line := here.line + 1 }

/-- How the location markers of a language are read: a line is a marker exactly if the language
writes it as one, and a marker takes one line, which is not empty. -/
structure MarkerReader (language : TargetLanguage) where
  read? : List Char → Option Location
  read?_eq_some_iff : ∀ line here,
    read? line = some here ↔ line = (language.marker here.file here.line).toList
  marker_oneLine : ∀ file line, '\n' ∉ file.toList → '\n' ∉ (language.marker file line).toList
  marker_ne_nil : ∀ file line, (language.marker file line).toList ≠ []

namespace MarkerReader

variable {language : TargetLanguage} (reader : MarkerReader language)

/-- The lines of code that are no markers, each with the location it is attributed to. -/
def locate (here : Location) : List (List Char) → List (Location × List Char)
  | [] => []
  | line :: rest =>
    match reader.read? line with
    | some there => locate there rest
    | none => (here, line) :: locate here.next rest

/-- The location that the line after some lines is attributed to. -/
def after (here : Location) : List (List Char) → Location
  | [] => here
  | line :: rest => after ((reader.read? line).getD here.next) rest

theorem locate_append (here : Location) (left right : List (List Char)) :
    reader.locate here (left ++ right) =
      reader.locate here left ++ reader.locate (reader.after here left) right := by
  induction left generalizing here with
  | nil => rfl
  | cons line rest ih =>
    rw [List.cons_append, locate, locate, after]
    cases reader.read? line with
    | some there => exact ih there
    | none =>
      simp only [Option.getD_none, List.cons_append, List.cons.injEq, true_and]
      exact ih here.next

theorem after_append (here : Location) (left right : List (List Char)) :
    reader.after here (left ++ right) = reader.after (reader.after here left) right := by
  induction left generalizing here with
  | nil => rfl
  | cons line rest ih => exact ih _

/-- Lines without markers are attributed to the lines of one file, one after the other. -/
theorem locate_unmarked {lines : List (List Char)}
    (unmarked : ∀ line ∈ lines, reader.read? line = none) (file : String) (first : Nat) :
    reader.locate ⟨file, first⟩ lines =
      (lines.zipIdx first).map fun line => (⟨file, line.2⟩, line.1) := by
  induction lines generalizing first with
  | nil => rfl
  | cons line rest ih =>
    have here : reader.read? line = none := unmarked line List.mem_cons_self
    have later := ih (fun line mem => unmarked line (List.mem_cons_of_mem _ mem)) (first + 1)
    simp only [locate, here, List.zipIdx_cons, List.map_cons, List.cons.injEq, true_and]
    exact later

theorem read?_marker (file : String) (line : Nat) :
    reader.read? (language.marker file line).toList = some ⟨file, line⟩ :=
  (reader.read?_eq_some_iff _ ⟨file, line⟩).mpr rfl

theorem read?_nil : reader.read? [] = none := by
  cases h : reader.read? [] with
  | none => rfl
  | some here => exact absurd ((reader.read?_eq_some_iff _ _).mp h).symm (reader.marker_ne_nil _ _)

end MarkerReader

/-! ## The markers of Swift -/

namespace TargetLanguage

/-- What a Swift marker starts with. -/
def markerLead : String := "#sourceLocation(file: \""

/-- What stands between the file and the line of a Swift marker. -/
def markerMiddle : String := "\", line: "

theorem toList_swift_marker (file : String) (line : Nat) :
    (swift.marker file line).toList =
      markerLead.toList ++
        (file.toList ++ (markerMiddle.toList ++ (Numeral.decimal line ++ [')']))) := by
  simp [swift, markerLead, markerMiddle, Numeral.decimal, toString]

/-- The location that a line of Swift code names, if it is a marker. The line number stands behind
the last comma, whatever the file is called. -/
def swiftMarker? (line : List Char) : Option Location := do
  let body ← Text.dropLead? markerLead.toList line
  let back ← Text.dropLead? [')'] body.reverse
  let file ← Text.dropLead? markerMiddle.toList.reverse (back.dropWhile Numeral.isDigit)
  let number := Nat.ofDigitChars 10 (back.takeWhile Numeral.isDigit).reverse 0
  let here : Location := ⟨String.ofList file.reverse, number⟩
  if line = (swift.marker here.file here.line).toList then some here else none

theorem swiftMarker?_marker (file : String) (line : Nat) :
    swiftMarker? (swift.marker file line).toList = some ⟨file, line⟩ := by
  have digits : ∀ c ∈ (Numeral.decimal line).reverse, Numeral.isDigit c = true :=
    fun c mem => Numeral.isDigit_of_mem_decimal (List.mem_reverse.mp mem)
  have middle : markerMiddle.toList.reverse = ' ' :: ":enil ,\"".toList := by decide
  have back : (file.toList ++ (markerMiddle.toList ++ (Numeral.decimal line ++ [')']))).reverse =
      [')'] ++ ((Numeral.decimal line).reverse ++
        (markerMiddle.toList.reverse ++ file.toList.reverse)) := by
    simp
  have taken : ((Numeral.decimal line).reverse ++
      (markerMiddle.toList.reverse ++ file.toList.reverse)).takeWhile Numeral.isDigit =
        (Numeral.decimal line).reverse := by
    rw [List.takeWhile_append_of_pos digits, middle]
    simp [Numeral.isDigit]
  have dropped : ((Numeral.decimal line).reverse ++
      (markerMiddle.toList.reverse ++ file.toList.reverse)).dropWhile Numeral.isDigit =
        markerMiddle.toList.reverse ++ file.toList.reverse := by
    rw [List.dropWhile_append_of_pos digits, middle]
    simp [Numeral.isDigit]
  have number : Nat.ofDigitChars 10 (Numeral.decimal line) 0 = line := Nat.ofDigitChars_ten_toDigits
  have read : Text.dropLead? markerLead.toList (swift.marker file line).toList =
      some (file.toList ++ (markerMiddle.toList ++ (Numeral.decimal line ++ [')']))) := by
    rw [toList_swift_marker, Text.dropLead?_append]
  simp only [swiftMarker?, read, Option.bind_eq_bind, Option.bind_some, back, Text.dropLead?_append,
    dropped, taken, List.reverse_reverse, String.ofList_toList, number, if_true]

/-- Swift's markers are read back by what they are written from. -/
def swiftMarkers : MarkerReader swift where
  read? := swiftMarker?
  read?_eq_some_iff line here := by
    constructor
    · intro read
      simp only [swiftMarker?, Option.bind_eq_bind, Option.bind_eq_some_iff] at read
      obtain ⟨_, -, _, -, _, -, read⟩ := read
      obtain ⟨written, same⟩ := Option.ite_none_right_eq_some.mp read
      obtain rfl := Option.some.inj same
      exact written
    · rintro rfl
      exact swiftMarker?_marker here.file here.line
  marker_oneLine file line oneLine := by
    have digits : '\n' ∉ Numeral.decimal line := fun mem =>
      absurd (Numeral.isDigit_of_mem_decimal mem) (by decide)
    simp [toList_swift_marker, markerLead, markerMiddle, oneLine, digits]
  marker_ne_nil file line := by
    simp [toList_swift_marker, markerLead]

end TargetLanguage

/-! ## What stands in place of a line -/

/-- What stands in submitted code for a line of a cell. -/
inductive Part where
  /-- The line itself. -/
  | kept (line : List Char)
  /-- An empty line. -/
  | blank
  /-- The text of a file, between markers. -/
  | file (name text : String)

namespace Part

/-- What a line of a cell asks for. The text of an included file is one that was read under one of
the directories. -/
def For (roots : List String) (log : List (Exchange Host)) (line : List Char) : Part → Prop
  | kept text => Directive.ofLine line = .text ∧ text = line
  | blank => Directive.ofLine line = .enableCompletion
  | file name text =>
    Directive.ofLine line = .includeFile (some name.toList) ∧
      ∃ root ∈ roots, ⟨.readText (Path.join root name), .ok text⟩ ∈ log

/-- The characters that stand for the line with a given number. -/
def text (p : Expander) (cell : String) (number : Nat) : Part → String
  | kept line => String.ofList line
  | blank => ""
  | file name text => p.splice name text cell number

/-- Where a reader of the code finds them. -/
def placed {language : TargetLanguage} (reader : MarkerReader language) (cell : String)
    (number : Nat) : Part → List (Location × List Char)
  | kept line => [(⟨cell, number⟩, line)]
  | blank => [(⟨cell, number⟩, [])]
  | file name text =>
    reader.locate ⟨name, 1⟩ (Text.lines text.toList) ++ [(⟨cell, number⟩, [])]

theorem For.mono {roots : List String} {log more : List (Exchange Host)} {line : List Char}
    {part : Part} (sub : ∀ exchange ∈ log, exchange ∈ more) (h : part.For roots log line) :
    part.For roots more line := by
  cases part with
  | kept _ => exact h
  | blank => exact h
  | file name text =>
    obtain ⟨directive, root, mem, read⟩ := h
    exact ⟨directive, root, mem, sub _ read⟩

end Part

/-! ## What expansion puts there -/

section Expansion

variable {p : Expander} {cell : String} {number : Nat} {log : List (Exchange Host)}
  {before after : CompletionState}

/-- The text that the search for a file finds was read under one of the directories. -/
theorem Expander.findText_gives {name text : String} :
    ∀ {roots : List String} {log : List (Exchange Host)},
      (Expander.findText name roots).Gives log (some text) →
      ∃ root ∈ roots, ⟨.readText (Path.join root name), .ok text⟩ ∈ log := by
  intro roots
  induction roots with
  | nil => exact fun run => nomatch run.of_done.2
  | cons root rest ih =>
    intro log run
    obtain ⟨answer, later, rfl, rest⟩ := run.of_ask
    cases answer with
    | ok found =>
      obtain ⟨rfl, same⟩ := rest.of_done
      obtain rfl := Option.some.inj same
      exact ⟨root, List.mem_cons_self, List.mem_cons_self⟩
    | error e =>
      obtain ⟨root, mem, read⟩ := ih rest
      exact ⟨root, List.mem_cons_of_mem _ mem, List.mem_cons_of_mem _ read⟩

theorem Expander.includeText_gives {name? : Option (List Char)} {replaced : String}
    (run : ((p.includeText cell number name?).run.run before).Gives log (.ok replaced, after)) :
    ∃ name text, name? = some name ∧ replaced = p.splice (String.ofList name) text cell number ∧
      ∃ root ∈ p.includePath.roots,
        ⟨.readText (Path.join root (String.ofList name)), .ok text⟩ ∈ log := by
  cases name? with
  | none => cases run.of_done.2
  | some name =>
    obtain ⟨first, second, found, middle, rfl, search, rest⟩ := Layers.gives_bind_ok run
    obtain ⟨text?, same, rfl, search⟩ := Layers.gives_lift search
    obtain rfl := Except.ok.inj same
    cases found with
    | none => cases rest.of_done.2
    | some text =>
      obtain ⟨rfl, same⟩ := rest.of_done
      obtain ⟨root, mem, read⟩ := Expander.findText_gives search
      exact ⟨name, text, rfl, Except.ok.inj (Prod.mk.inj same).1, root, mem,
        List.mem_append_left _ read⟩

/-- A line is replaced by the part that its directive asks for. -/
theorem Expander.line_gives {line : List Char} {replaced : String}
    (run : ((p.line cell number line).run.run before).Gives log (.ok replaced, after)) :
    ∃ part : Part, part.For p.includePath.roots log line ∧
      replaced = part.text p cell number := by
  unfold Expander.line at run
  cases directive : Directive.ofLine line with
  | text =>
    rw [directive] at run
    obtain ⟨-, same⟩ := run.of_done
    exact ⟨.kept line, ⟨directive, rfl⟩, Except.ok.inj (Prod.mk.inj same).1⟩
  | enableCompletion =>
    rw [directive] at run
    obtain ⟨_, _, _, _, rfl, -, rest⟩ := Layers.gives_bind_ok run
    obtain ⟨-, same⟩ := rest.of_done
    exact ⟨.blank, directive, Except.ok.inj (Prod.mk.inj same).1⟩
  | includeFile name? =>
    rw [directive] at run
    obtain ⟨name, text, rfl, same, read⟩ := Expander.includeText_gives run
    exact ⟨.file (String.ofList name) text, ⟨by simpa using directive, read⟩, same⟩

/-- The lines of a cell are replaced by parts, one for each. -/
theorem Expander.lines_gives {lines : List (List Char)} {replaced : List String} :
    ∀ {number : Nat} {log : List (Exchange Host)} {before : CompletionState},
      ((p.lines cell number lines).run.run before).Gives log (.ok replaced, after) →
      ∃ parts : List Part, List.Forall₂ (fun line part => part.For p.includePath.roots log line)
          lines parts ∧
        replaced = (parts.zipIdx number).map fun part => part.1.text p cell part.2 := by
  induction lines generalizing replaced with
  | nil =>
    intro number log before run
    obtain ⟨-, same⟩ := run.of_done
    exact ⟨[], .nil, Except.ok.inj (Prod.mk.inj same).1⟩
  | cons line rest ih =>
    intro number log before run
    obtain ⟨first, second, head, middle, rfl, left, right⟩ := Layers.gives_bind_ok run
    obtain ⟨third, fourth, tail, _, rfl, others, last⟩ := Layers.gives_bind_ok right
    obtain ⟨rfl, same⟩ := last.of_done
    obtain ⟨sameText, rfl⟩ := Prod.mk.inj same
    obtain ⟨part, here, rfl⟩ := Expander.line_gives left
    obtain ⟨parts, there, rfl⟩ := ih others
    refine ⟨part :: parts, .cons (here.mono ?_) (there.imp fun _ _ h => h.mono ?_), ?_⟩
    · exact fun _ mem => List.mem_append_left _ mem
    · simpa using Except.ok.inj sameText
    · exact fun _ mem => List.mem_append_right _ (List.mem_append_left _ mem)

/-- Expanded code is the text of the parts, joined by line feeds. -/
theorem Expander.run_gives {source code : String}
    (run : ((p.run source cell).run.run before).Gives log (.ok code, after)) :
    ∃ parts : List Part,
      List.Forall₂ (fun line part => part.For p.includePath.roots log line)
          (Text.lines source.toList) parts ∧
        code = "\n".intercalate ((parts.zipIdx 1).map fun part => part.1.text p cell part.2) := by
  rw [Expander.run, map_eq_pure_bind] at run
  obtain ⟨first, second, replaced, state, rfl, lines, rest⟩ := Layers.gives_bind_ok run
  obtain ⟨rfl, same⟩ := rest.of_done
  obtain rfl := Except.ok.inj (Prod.mk.inj same).1
  obtain ⟨parts, here, rfl⟩ := Expander.lines_gives lines
  exact ⟨parts, by simpa using here, rfl⟩

theorem Kernel.expand_gives {k after : Kernel} {source code : String}
    (run : (Kernel.expand source k).Gives log (.ok code, after)) :
    ∃ parts : List Part,
      List.Forall₂ (fun line part => part.For k.expander.includePath.roots log line)
          (Text.lines source.toList) parts ∧
        code = "\n".intercalate
          ((parts.zipIdx 1).map fun part => part.1.text k.expander k.cellName part.2) := by
  obtain ⟨first, second, ⟨result, state⟩, rfl, expanded, rest⟩ := Program.Gives.of_bind run
  obtain ⟨rfl, same⟩ := rest.of_done
  obtain ⟨rfl, -⟩ := Prod.mk.inj same
  rw [List.append_nil]
  exact Expander.run_gives expanded

end Expansion

/-! ## Reading the parts -/

section Reading

variable {p : Expander} (reader : MarkerReader p.language) {cell : String}

/-- The name of an included file stands in the line that asks for it. -/
theorem Directive.mem_of_ofLine {line name : List Char} {c : Char}
    (directive : Directive.ofLine line = .includeFile (some name)) (mem : c ∈ name) :
    c ∈ line := by
  unfold Directive.ofLine at directive
  dsimp only at directive
  split at directive
  · next rest lead =>
    have quoted : Directive.quotedName? rest = some name := Directive.includeFile.inj directive
    unfold Directive.quotedName? at quoted
    split at quoted
    · next inner start =>
      obtain ⟨-, same⟩ := Option.ite_none_right_eq_some.mp quoted
      obtain rfl := Option.some.inj same
      have inRest : c ∈ rest := by
        apply (List.dropWhile_sublist Text.isBlank).mem
        rw [start]
        exact List.mem_cons_of_mem _ ((List.takeWhile_sublist _).mem mem)
      apply (List.dropWhile_sublist Text.isBlank).mem
      rw [Text.dropLead?_eq_some_iff.mp lead]
      exact List.mem_append_right _ inRest
    · cases quoted
  · split at directive <;> cases directive

/-- What stands for a line of the cell is read at that line, and leaves the reading at the next. -/
theorem Part.locate_text {roots : List String} {log : List (Exchange Host)} {line : List Char}
    {part : Part} (here : part.For roots log line) (unmarked : reader.read? line = none)
    (oneLine : '\n' ∉ line) (cellLine : '\n' ∉ cell.toList) (number : Nat) :
    reader.locate ⟨cell, number⟩ (Text.lines (part.text p cell number).toList) =
        part.placed reader cell number ∧
      reader.after ⟨cell, number⟩ (Text.lines (part.text p cell number).toList) =
        ⟨cell, number + 1⟩ := by
  cases part with
  | kept text =>
    obtain ⟨-, rfl⟩ := here
    have single : Text.lines (Part.text p cell number (.kept text)).toList = [text] := by
      simpa [Part.text] using Text.lines_of_not_mem oneLine
    rw [single]
    simp [MarkerReader.locate, MarkerReader.after, unmarked, Part.placed, Location.next]
  | blank =>
    have single : Text.lines (Part.text p cell number .blank).toList = [[]] := by
      simp [Part.text, Text.lines]
    rw [single]
    simp [MarkerReader.locate, MarkerReader.after, reader.read?_nil, Part.placed, Location.next]
  | file name text =>
    have nameLine : '\n' ∉ name.toList := fun mem =>
      oneLine (Directive.mem_of_ofLine here.1 mem)
    have pieces : Text.lines (Part.text p cell number (.file name text)).toList =
        (p.language.marker name 1).toList :: (Text.lines text.toList ++
          [(p.language.marker cell number).toList, []]) := by
      rw [Part.text, Expander.splice, Text.toList_intercalate_lineFeed,
        Text.lines_unlines (by simp)]
      simp [Text.lines_of_not_mem (reader.marker_oneLine _ _ nameLine),
        Text.lines_of_not_mem (reader.marker_oneLine _ _ cellLine), Text.lines]
    rw [pieces]
    simp [MarkerReader.locate, MarkerReader.after, MarkerReader.locate_append,
      MarkerReader.after_append, reader.read?_marker, reader.read?_nil, Part.placed, Location.next]

/-- The parts of a cell are read one after the other, each at its own line. -/
theorem Part.locate_parts {roots : List String} {log : List (Exchange Host)}
    {lines : List (List Char)} {parts : List Part}
    (here : List.Forall₂ (fun line part => part.For roots log line) lines parts)
    (cellLine : '\n' ∉ cell.toList) (oneLine : ∀ line ∈ lines, '\n' ∉ line)
    (unmarked : ∀ line ∈ lines, reader.read? line = none) (number : Nat) :
    reader.locate ⟨cell, number⟩
        ((parts.zipIdx number).flatMap fun part =>
          Text.lines (part.1.text p cell part.2).toList) =
      (parts.zipIdx number).flatMap fun part => part.1.placed reader cell part.2 := by
  induction here generalizing number with
  | nil => rfl
  | cons first _ ih =>
    rename_i line _ _ _ _
    obtain ⟨read, next⟩ := Part.locate_text (p := p) reader first
      (unmarked line List.mem_cons_self) (oneLine line List.mem_cons_self) cellLine number
    have later := ih (fun line mem => oneLine line (List.mem_cons_of_mem _ mem))
      (fun line mem => unmarked line (List.mem_cons_of_mem _ mem)) (number + 1)
    simp only [List.zipIdx_cons, List.flatMap_cons]
    rw [MarkerReader.locate_append, read, next, later]

theorem Kernel.lineFeed_not_mem_cellName (k : Kernel) : '\n' ∉ k.cellName.toList := by
  have digits : '\n' ∉ Nat.toDigits 10 k.counter.toNat := fun mem =>
    absurd (Nat.isDigit_of_mem_toDigits (by decide) (by decide) mem) (by decide)
  simp [Kernel.cellName, digits, toString]

/-- Every line of a cell that is no directive is read unchanged at its own place, a line that
switches completion on is read as an empty line there, and an included text is read at the place of
its file, behind it an empty line at the place of the include line. Nothing else is read. -/
theorem Kernel.locate_submitted {k after : Kernel} (reader : MarkerReader k.language)
    {source code : String} {log : List (Exchange Host)}
    (expanded : (Kernel.expand source k).Gives log (.ok code, after))
    (unmarked : ∀ line ∈ Text.lines source.toList, reader.read? line = none) :
    (∃ parts : List Part,
      List.Forall₂ (fun line part => part.For k.expander.includePath.roots log line)
          (Text.lines source.toList) parts ∧
        ∀ here, reader.locate here (Text.lines (k.located code).toList) =
          (parts.zipIdx 1).flatMap fun part => part.1.placed reader k.cellName part.2) ∧
      ∀ name text : String, (∀ line ∈ Text.lines text.toList, reader.read? line = none) →
        reader.locate ⟨name, 1⟩ (Text.lines text.toList) =
          ((Text.lines text.toList).zipIdx 1).map fun line => (⟨name, line.2⟩, line.1) := by
  refine ⟨?_, fun name text plain => reader.locate_unmarked plain name 1⟩
  obtain ⟨parts, here, rfl⟩ := Kernel.expand_gives expanded
  refine ⟨parts, here, fun start => ?_⟩
  have cellLine := k.lineFeed_not_mem_cellName
  have some : parts ≠ [] := by
    rintro rfl
    exact Text.lines_ne_nil _ (List.forall₂_nil_right_iff.mp here)
  have pieces : Text.lines (k.located ("\n".intercalate
        ((parts.zipIdx 1).map fun part => part.1.text k.expander k.cellName part.2))).toList =
      (k.language.marker k.cellName 1).toList :: (parts.zipIdx 1).flatMap fun part =>
        Text.lines (part.1.text k.expander k.cellName part.2).toList := by
    rw [Kernel.located, String.toList_append, String.toList_append,
      Text.toList_intercalate_lineFeed]
    simp only [String.reduceToList, List.append_assoc, List.cons_append, List.nil_append]
    rw [Text.lines_append_lineFeed, Text.lines_of_not_mem (reader.marker_oneLine _ _ cellLine),
      Text.lines_unlines (by simp [some])]
    simp [List.flatMap_map]
  rw [pieces, MarkerReader.locate, reader.read?_marker]
  exact Part.locate_parts reader here cellLine (fun _ => Text.not_mem_of_mem_lines) unmarked 1

end Reading

/-- A Swift kernel with one directory to include from. -/
def Kernel.withLibrary : Kernel :=
  { (default : Kernel) with
    expander := ⟨.swift, ⟨none, none, ["lib"]⟩⟩
    completion := .ofSupport true }

/-- A cell with both directives, expanded with the file at hand. -/
theorem Kernel.expand_withLibrary :
    (Kernel.expand "%include \"a\"\n%enableCompletion\nx" .withLibrary).Gives
      [⟨Host.Request.readText "lib/a", Except.ok "y"⟩,
        ⟨Host.Request.broadcast (.notification (.stdout "Completion enabled!\n")), Except.ok ()⟩]
      (.ok ("#sourceLocation(file: \"a\", line: 1)\ny\n" ++
          "#sourceLocation(file: \"<Cell 0>\", line: 1)\n\n\nx"),
        { Kernel.withLibrary with completion := ⟨true, true⟩ }) :=
  .ask _ _ (.ask _ _ (.done _))

theorem Kernel.locate_submitted_withLibrary :
    ∃ parts : List Part,
      List.Forall₂ (fun line part => part.For ["lib"]
          [⟨Host.Request.readText "lib/a", Except.ok "y"⟩,
            ⟨Host.Request.broadcast (.notification (.stdout "Completion enabled!\n")),
              Except.ok ()⟩] line)
          (Text.lines "%include \"a\"\n%enableCompletion\nx".toList) parts ∧
        (∀ here, TargetLanguage.swiftMarkers.locate here (Text.lines (Kernel.withLibrary.located
            ("#sourceLocation(file: \"a\", line: 1)\ny\n" ++
              "#sourceLocation(file: \"<Cell 0>\", line: 1)\n\n\nx")).toList) =
          (parts.zipIdx 1).flatMap fun part =>
            part.1.placed TargetLanguage.swiftMarkers "<Cell 0>" part.2) ∧
        TargetLanguage.swiftMarkers.locate ⟨"a", 1⟩ (Text.lines "y".toList) =
          [(⟨"a", 1⟩, ['y'])] := by
  have unmarked : ∀ line ∈ Text.lines "%include \"a\"\n%enableCompletion\nx".toList,
      TargetLanguage.swiftMarkers.read? line = none := by decide
  obtain ⟨⟨parts, here, read⟩, plain⟩ :=
    Kernel.locate_submitted (k := .withLibrary) TargetLanguage.swiftMarkers
      Kernel.expand_withLibrary unmarked
  have unmarkedFile : ∀ line ∈ Text.lines "y".toList,
      TargetLanguage.swiftMarkers.read? line = none := by decide
  exact ⟨parts, here, read, (plain "a" "y" unmarkedFile).trans (by decide)⟩

end NotebookKernel
