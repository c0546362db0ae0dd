import NotebookKernel.Proofs.Cell.LineMap

/-!
The diagnostics of cells that cannot be expanded.

A diagnostic is one line of a traceback, so it must not contain a line feed. The name of a missing
file is taken from a line of the cell, and the directories that were searched are escaped; that is
all that a diagnostic repeats of what it was given.
-/

namespace NotebookKernel

/-! ## Escaped texts -/

namespace Text

theorem lineFeed_not_mem_toDigits {base : Nat} (many : 1 < base) (n : Nat) :
    '\n' ∉ Nat.toDigits base n := by
  induction n using Nat.strongRecOn with
  | ind n ih =>
    have last : ∀ d, '\n' ∉ [Nat.digitChar d] := fun d mem =>
      Nat.digitChar_ne '\n' rfl (List.mem_singleton.mp mem).symm
    by_cases small : n < base
    · rw [Nat.toDigits_of_lt_base small]
      exact last n
    · have shorter : n / base < n := Nat.div_lt_self (by omega) many
      rw [Nat.toDigits_of_base_le many (by omega), List.mem_append]
      exact fun mem => mem.elim (ih _ shorter) (last _)

theorem lineFeed_not_mem_escapeVisible (c : Char) : '\n' ∉ escapeVisible c := by
  unfold escapeVisible
  split_ifs with _ _ _ feed
  · decide
  · decide
  · decide
  · decide
  · simpa using fun same : '\n' = c => feed same.symm
  · simp [lineFeed_not_mem_toDigits]
  · simpa using fun same : '\n' = c => feed same.symm

theorem lineFeed_not_mem_quoteVisible (text : List Char) : '\n' ∉ quoteVisible text := by
  simp [quoteVisible, lineFeed_not_mem_escapeVisible]

theorem lineFeed_not_mem_quoteList (texts : List (List Char)) : '\n' ∉ quoteList texts := by
  have between : '\n' ∉ List.intercalate [',', ' '] (texts.map quoteVisible) := by
    induction texts with
    | nil => simp
    | cons first rest ih =>
      cases rest with
      | nil => simpa using lineFeed_not_mem_quoteVisible first
      | cons second rest =>
        rw [List.map_cons, List.map_cons, List.intercalate_cons_cons]
        rw [List.map_cons] at ih
        simp [lineFeed_not_mem_quoteVisible, ih]
  simp [quoteList, between]

end Text

/-! ## Diagnostics -/

namespace ExpansionError

/-- The diagnostic is about a line without a name in quotes, or it names a file that the line asks
for. -/
def Names (line : List Char) (number : Nat) (searched : List String) : ExpansionError → Prop
  | unquotedName n => n = number
  | fileNotFound n name roots =>
    n = number ∧ roots = searched ∧ Directive.ofLine line = .includeFile (some name.toList)

/-- A diagnostic about a line is itself a line. -/
theorem Names.oneLine {line : List Char} {number : Nat} {searched : List String}
    {e : ExpansionError} (names : e.Names line number searched) (oneLine : '\n' ∉ line) :
    '\n' ∉ e.message.toList := by
  have digits : ∀ n : Nat, '\n' ∉ Nat.toDigits 10 n :=
    Text.lineFeed_not_mem_toDigits (by decide)
  cases e with
  | unquotedName n => simp [message, digits, toString]
  | fileNotFound n name roots =>
    obtain ⟨-, -, directive⟩ := names
    have name : '\n' ∉ name.toList := fun mem => oneLine (Directive.mem_of_ofLine directive mem)
    simp [message, digits, name, Text.lineFeed_not_mem_quoteList, toString]

end ExpansionError

section Refusals

variable {p : Expander} {cell : String} {number : Nat} {log : List (Exchange Host)}
  {before after : CompletionState} {e : ExpansionError}

theorem Expander.includeText_refuses {line : List Char} {name? : Option (List Char)}
    (directive : Directive.ofLine line = .includeFile name?)
    (run : ((p.includeText cell number name?).run.run before).Gives log (.error e, after)) :
    e.Names line number p.includePath.roots := by
  cases name? with
  | none =>
    obtain ⟨-, same⟩ := run.of_done
    cases same
    rfl
  | some name =>
    obtain ⟨_, _, rfl, search | ⟨found, _, -, rest⟩⟩ := Layers.gives_bind_error run
    · obtain ⟨_, same, -, -⟩ := Layers.gives_lift search
      cases same
    · cases found with
      | some text => cases rest.of_done.2
      | none =>
        obtain ⟨-, same⟩ := rest.of_done
        cases same
        exact ⟨rfl, rfl, by simpa using directive⟩

theorem Expander.line_refuses {line : List Char}
    (run : ((p.line cell number line).run.run before).Gives log (.error e, after)) :
    e.Names line number p.includePath.roots := by
  unfold Expander.line at run
  cases directive : Directive.ofLine line with
  | text =>
    rw [directive] at run
    cases run.of_done.2
  | enableCompletion =>
    rw [directive] at run
    obtain ⟨_, _, rfl, asked | ⟨_, _, -, rest⟩⟩ := Layers.gives_bind_error run
    · obtain ⟨_, same, -, -⟩ := Layers.gives_lift asked
      cases same
    · cases rest.of_done.2
  | includeFile name? =>
    rw [directive] at run
    exact includeText_refuses directive run

/-- What keeps lines from being expanded is one of them. -/
theorem Expander.lines_refuses {lines : List (List Char)} :
    ∀ {number : Nat} {log : List (Exchange Host)} {before : CompletionState},
      ((p.lines cell number lines).run.run before).Gives log (.error e, after) →
      ∃ (i : Nat) (line : List Char), lines[i]? = some line ∧
        e.Names line (number + i) p.includePath.roots := by
  induction lines with
  | nil => exact fun run => nomatch run.of_done.2
  | cons line rest ih =>
    intro number log before run
    obtain ⟨_, _, rfl, here | ⟨_, _, -, later⟩⟩ := Layers.gives_bind_error run
    · exact ⟨0, line, rfl, line_refuses here⟩
    obtain ⟨_, _, rfl, others | ⟨_, _, -, last⟩⟩ := Layers.gives_bind_error later
    · obtain ⟨i, line, at', names⟩ := ih others
      refine ⟨i + 1, line, at', ?_⟩
      rwa [Nat.add_assoc, Nat.add_comm 1 i] at names
    · cases last.of_done.2

/-- What keeps a cell from being expanded is one of its lines, which the diagnostic gives by its
number. -/
theorem Kernel.expand_refuses {k after : Kernel} {source : String}
    (run : (Kernel.expand source k).Gives log (.error e, after)) :
    ∃ (i : Nat) (line : List Char), (Text.lines source.toList)[i]? = some line ∧
      e.Names line (i + 1) k.expander.includePath.roots := by
  obtain ⟨_, _, ⟨result, state⟩, rfl, expanded, rest⟩ := Program.Gives.of_bind run
  obtain ⟨-, same⟩ := rest.of_done
  cases same
  rw [Expander.run, map_eq_pure_bind] at expanded
  obtain ⟨_, _, rfl, refused | ⟨_, _, -, rest⟩⟩ := Layers.gives_bind_error expanded
  · obtain ⟨i, line, at', names⟩ := Expander.lines_refuses refused
    rw [Nat.add_comm] at names
    exact ⟨i, line, at', names⟩
  · cases rest.of_done.2

end Refusals

end NotebookKernel
