import NotebookKernel.Cell.Execution
import NotebookKernel.Proofs.Cell.Patterns
import NotebookKernel.Proofs.Program.Trace

/-!
What is done for the lines of a cell, one after the other.

Expansion treats lines from the first on, up to the first include line for which no file can be
read. `Covered` says how far it comes, `Treatment.Apt` what it asks for at each line, and
`Expander.run_treats` that an expansion is no more than the treatments of its lines. Completion is on
afterwards if it was before, or if a treated line asks for it and the debugger supports it. How the
exchanges of an expansion divide among the lines is not a matter of choice
(`Covered.treatments_unique`).
-/

namespace NotebookKernel

/-- A line of a cell, and what was asked for its sake. -/
structure Treatment where
  line : List Char
  exchanges : List (Exchange Host)

/-- A file is looked for in one directory after the other, until it can be read. -/
inductive Searched (name : String) : (roots : List String) → List (Exchange Host) → Prop
  | nowhere : Searched name [] []
  | found (root : String) (rest : List String) (text : String) :
    Searched name (root :: rest) [⟨Host.Request.readText (Path.join root name), Except.ok text⟩]
  | passed {rest : List String} {log : List (Exchange Host)} (root : String) (e : Error) :
    Searched name rest log →
      Searched name (root :: rest)
        (⟨Host.Request.readText (Path.join root name), Except.error e⟩ :: log)

/-- The notice that a line about completion is answered with, and a warning if the channel does not
take it. -/
def noticed (supported : Bool) (answer : Except Error Unit) : List (Exchange Host) :=
  ⟨Host.Request.broadcast
      (.notification (.stdout (CompletionState.ofSupport supported).notice)), answer⟩ ::
    match answer with
    | .ok () => []
    | .error e =>
      [⟨Host.Request.log (Log.warn .kernel ("publish completion notice: " ++ e.message)), ()⟩]

namespace Treatment

/-- What is asked is what the line calls for. -/
def Apt (roots : List String) (supported : Bool) (t : Treatment) : Prop :=
  match Directive.ofLine t.line with
  | .text => t.exchanges = []
  | .enableCompletion => ∃ answer, t.exchanges = noticed supported answer
  | .includeFile none => t.exchanges = []
  | .includeFile (some name) => Searched (String.ofList name) roots t.exchanges

/-- An include line for which no file was read. -/
def Fails (t : Treatment) : Prop :=
  Directive.AsksFile t.line ∧
    ∀ path text, (⟨.readText path, .ok text⟩ : Exchange Host) ∉ t.exchanges

/-- What is asked for the sake of some lines. -/
def log (treatments : List Treatment) : List (Exchange Host) :=
  treatments.flatMap Treatment.exchanges

@[simp]
theorem log_cons (t : Treatment) (rest : List Treatment) : log (t :: rest) = t.exchanges ++ log rest :=
  List.flatMap_cons

end Treatment

/-- The lines are treated one by one, up to the first that fails. -/
inductive Covered : (lines : List (List Char)) → List Treatment → Prop
  | nil : Covered [] []
  | failed {line : List Char} {exchanges : List (Exchange Host)} (rest : List (List Char)) :
    Treatment.Fails ⟨line, exchanges⟩ → Covered (line :: rest) [⟨line, exchanges⟩]
  | passed {line : List Char} {exchanges : List (Exchange Host)} {rest : List (List Char)}
      {later : List Treatment} :
    ¬ Treatment.Fails ⟨line, exchanges⟩ → Covered rest later →
      Covered (line :: rest) (⟨line, exchanges⟩ :: later)

theorem Covered.line_mem {lines : List (List Char)} {treatments : List Treatment}
    (covered : Covered lines treatments) : ∀ t ∈ treatments, t.line ∈ lines := by
  induction covered with
  | nil => exact List.forall_mem_nil _
  | failed rest _ => exact List.forall_mem_singleton.mpr List.mem_cons_self
  | passed _ _ ih =>
    rw [List.forall_mem_cons]
    exact ⟨List.mem_cons_self, fun t mem => List.mem_cons_of_mem _ (ih t mem)⟩

/-! ## The treatment of one line -/

namespace Expander

variable {p : Expander} {file : String} {number : Nat} {s after : CompletionState}
  {log : List (Exchange Host)}

/-- A search reads at most one file, and finds a text exactly if it does. -/
theorem findText_searches {name : String} {roots : List String} {text? : Option String} :
    ∀ {log : List (Exchange Host)}, (findText name roots).Gives log text? →
      Searched name roots log ∧
        (text? = none ↔ ∀ path text, (⟨.readText path, .ok text⟩ : Exchange Host) ∉ log) := by
  induction roots with
  | nil =>
    intro log run
    obtain ⟨rfl, rfl⟩ := run.of_done
    exact ⟨.nowhere, by simp⟩
  | cons root rest ih =>
    intro log run
    obtain ⟨answer, later, rfl, rest⟩ := run.of_ask
    cases answer with
    | ok text =>
      obtain ⟨rfl, rfl⟩ := rest.of_done
      refine ⟨.found root _ text, ?_⟩
      simp only [reduceCtorEq, false_iff]
      exact fun unread => unread _ _ List.mem_cons_self
    | error e =>
      obtain ⟨searched, none⟩ := ih rest
      refine ⟨.passed root e searched, none.trans ?_⟩
      simp

/-- Beyond its search, an include line asks for nothing. -/
theorem includeText_run (p : Expander) (file : String) (number : Nat) (name : List Char)
    (s : CompletionState) :
    (p.includeText file number (some name)).run.run s =
      (findText (String.ofList name) p.includePath.roots).bind fun
        | some text => .done (.ok (p.splice (String.ofList name) text file number), s)
        | none =>
          .done (.error (.fileNotFound number (String.ofList name) p.includePath.roots), s) := by
  change ((liftM _ >>= _ : Expansion String)).run.run s = _
  rw [Layers.run_bind, Layers.run_lift, Program.bind_assoc]
  congr 1
  funext found
  cases found <;> rfl

/-- What an expansion leaves the kernel to know about completion: it is on if it was, or if a line
that was treated asks for it and the debugger supports it. -/
structure Leaves (s : CompletionState) (treatments : List Treatment) (after : CompletionState) :
    Prop where
  supported : after.supported = s.supported
  enabled : after.enabled = true ↔ s.enabled = true ∨
    s.supported = true ∧ ∃ t ∈ treatments, Directive.AsksCompletion t.line

theorem Leaves.refl (s : CompletionState) {treatments : List Treatment}
    (none : ∀ t ∈ treatments, ¬ Directive.AsksCompletion t.line) : Leaves s treatments s where
  supported := rfl
  enabled := by
    have : ¬ ∃ t ∈ treatments, Directive.AsksCompletion t.line := by simpa using none
    simp [this]

theorem Leaves.enable {line : List Char} {exchanges : List (Exchange Host)}
    (asks : Directive.AsksCompletion line) : Leaves s [⟨line, exchanges⟩] s.enable where
  supported := rfl
  enabled := by
    simp [CompletionState.enable, asks]

theorem Leaves.append {t u : CompletionState} {first second : List Treatment}
    (left : Leaves s first t) (right : Leaves t second u) : Leaves s (first ++ second) u where
  supported := right.supported.trans left.supported
  enabled := by
    rw [right.enabled, left.enabled, left.supported]
    simp only [List.mem_append]
    grind

/-- Lines that do not ask for completion leave it as it is. -/
theorem Leaves.eq_of_quiet {treatments : List Treatment} (leaves : Leaves s treatments after)
    (quiet : ∀ t ∈ treatments, ¬ Directive.AsksCompletion t.line) : after = s := by
  have none : ¬ ∃ t ∈ treatments, Directive.AsksCompletion t.line := by simpa using quiet
  have same := leaves.enabled
  simp only [none, and_false, or_false] at same
  obtain ⟨supported, enabled⟩ := after
  rw [CompletionState.mk.injEq]
  exact ⟨leaves.supported, Bool.eq_iff_iff.mpr same⟩

/-- The request that a line makes is treated aptly. It fails if it is an include line for which no
file was read, and only then; and it switches completion on if that is what it asks for. -/
theorem line_treats {line : List Char} {result : Except ExpansionError String}
    (run : ((p.line file number line).run.run s).Gives log (result, after)) :
    Treatment.Apt p.includePath.roots s.supported ⟨line, log⟩ ∧
      (Treatment.Fails ⟨line, log⟩ ↔ ∃ e, result = .error e) ∧ Leaves s [⟨line, log⟩] after := by
  unfold Expander.line at run
  unfold Treatment.Apt Treatment.Fails
  cases directive : Directive.ofLine line with
  | text =>
    obtain ⟨unfiled, unasked⟩ := Directive.ofLine_eq_text_iff.mp directive
    rw [directive] at run
    obtain ⟨rfl, same⟩ := run.of_done
    cases same
    exact ⟨rfl, by simp [unfiled], .refl _ (by simpa using unasked)⟩
  | enableCompletion =>
    have asks := Directive.ofLine_eq_enableCompletion_iff.mp directive
    rw [directive] at run
    obtain ⟨answer, log, rfl, rest⟩ := run.of_ask
    cases answer with
    | ok _ =>
      obtain ⟨rfl, same⟩ := rest.of_done
      cases same
      exact ⟨⟨.ok (), rfl⟩, by simp [asks.not_asksFile], .enable asks⟩
    | error e =>
      obtain ⟨_, _, rfl, warned⟩ := rest.of_ask
      obtain ⟨rfl, same⟩ := warned.of_done
      cases same
      have complaint : "publish completion notice:" ++ " " = "publish completion notice: " := by
        decide
      rw [complaint]
      exact ⟨⟨.error e, rfl⟩, by simp [asks.not_asksFile], .enable asks⟩
  | includeFile name? =>
    have asks := Directive.ofLine_eq_includeFile_iff.mp ⟨name?, directive⟩
    have unasked : ¬ Directive.AsksCompletion line := fun completion => completion.not_asksFile asks
    rw [directive] at run
    cases name? with
    | none =>
      obtain ⟨rfl, same⟩ := run.of_done
      cases same
      exact ⟨rfl, by simp [asks], .refl _ (by simpa using unasked)⟩
    | some name =>
      dsimp only at run
      rw [includeText_run] at run
      obtain ⟨_, _, found, rfl, search, rest⟩ := run.of_bind
      obtain ⟨searched, none⟩ := findText_searches search
      cases found with
      | some text =>
        obtain ⟨rfl, same⟩ := rest.of_done
        cases same
        rw [List.append_nil, ← none]
        exact ⟨searched, by simp, .refl _ (by simpa using unasked)⟩
      | none =>
        obtain ⟨rfl, same⟩ := rest.of_done
        cases same
        rw [List.append_nil, ← none]
        exact ⟨searched, by simp [asks], .refl _ (by simpa using unasked)⟩

/-! ## The treatment of all lines -/

/-- The lines of a cell are treated one after the other, and nothing else is asked for. -/
theorem lines_treats {lines : List (List Char)} :
    ∀ {number : Nat} {log : List (Exchange Host)} {s after : CompletionState}
      {result : Except ExpansionError (List String)},
      ((p.lines file number lines).run.run s).Gives log (result, after) →
      ∃ treatments, log = Treatment.log treatments ∧ Covered lines treatments ∧
        (∀ t ∈ treatments, t.Apt p.includePath.roots s.supported) ∧
        ((∃ t ∈ treatments, t.Fails) ↔ ∃ e, result = .error e) ∧ Leaves s treatments after := by
  induction lines with
  | nil =>
    intro number log s after result run
    obtain ⟨rfl, same⟩ := run.of_done
    cases same
    exact ⟨[], rfl, .nil, List.forall_mem_nil _, by simp, .refl _ (List.forall_mem_nil _)⟩
  | cons line rest ih =>
    intro number log s after result run
    unfold Expander.lines at run
    rw [Layers.run_bind] at run
    obtain ⟨first, second, ⟨replaced, middle⟩, rfl, left, right⟩ := run.of_bind
    obtain ⟨apt, fails, leaves⟩ := line_treats left
    cases replaced with
    | error e =>
      obtain ⟨rfl, same⟩ := right.of_done
      cases same
      refine ⟨[⟨line, first⟩], by simp [Treatment.log], .failed rest (fails.mpr ⟨e, rfl⟩), ?_,
        by simp [fails], leaves⟩
      exact List.forall_mem_singleton.mpr apt
    | ok replaced =>
      dsimp only at right
      rw [Layers.run_bind] at right
      obtain ⟨third, fourth, ⟨replacements, last⟩, rfl, others, rest⟩ := right.of_bind
      obtain ⟨treatments, rfl, covered, apts, failures, later⟩ := ih others
      -- what is done with the replacements afterwards asks for nothing
      obtain ⟨rfl, rfl, same⟩ : fourth = [] ∧ after = last ∧
          ((∃ e, result = .error e) ↔ ∃ e, replacements = .error e) := by
        cases replacements <;>
        · obtain ⟨rfl, same⟩ := rest.of_done
          cases same
          exact ⟨rfl, rfl, by simp⟩
      have succeeded : ¬ Treatment.Fails ⟨line, first⟩ := by simp [fails]
      refine ⟨⟨line, first⟩ :: treatments, by simp, .passed succeeded covered, ?_, ?_,
        leaves.append later⟩
      · rw [leaves.supported] at apts
        exact List.forall_mem_cons.mpr ⟨apt, apts⟩
      · rw [same, ← failures]
        simp [succeeded]

end Expander

/-- The expansion of a cell is the treatment of its lines. Of the kernel it changes the state of
completion, and nothing else. -/
theorem Kernel.expand_treats {k after : Kernel} {source : String} {log : List (Exchange Host)}
    {result : Except ExpansionError String}
    (run : (Kernel.expand source k).Gives log (result, after)) :
    ∃ treatments, log = Treatment.log treatments ∧
      Covered (Text.lines source.toList) treatments ∧
      (∀ t ∈ treatments, t.Apt k.expander.includePath.roots k.completion.supported) ∧
      ((∃ t ∈ treatments, t.Fails) ↔ ∃ e, result = .error e) ∧
      Expander.Leaves k.completion treatments after.completion ∧
      after = { k with completion := after.completion } := by
  obtain ⟨first, second, ⟨result, completion⟩, rfl, expanded, rest⟩ := Program.Gives.of_bind run
  obtain ⟨rfl, same⟩ := rest.of_done
  cases same
  rw [Expander.run, map_eq_pure_bind, Layers.run_bind] at expanded
  obtain ⟨first, second, ⟨replaced, last⟩, rfl, lines, rest⟩ := expanded.of_bind
  obtain ⟨treatments, rfl, covered, apts, failures, leaves⟩ := Expander.lines_treats lines
  obtain ⟨rfl, rfl, same⟩ : second = [] ∧ completion = last ∧
      ((∃ e, result = .error e) ↔ ∃ e, replaced = .error e) := by
    cases replaced <;>
    · obtain ⟨rfl, same⟩ := rest.of_done
      cases same
      exact ⟨rfl, rfl, by simp⟩
  exact ⟨treatments, by simp, covered, apts, failures.trans same.symm, leaves, rfl⟩

/-! ## There is no other way to tell the lines apart -/

/-- A search is over with the first file that can be read. -/
theorem Searched.unique {name : String} {roots : List String}
    {log log' more more' : List (Exchange Host)} (search : Searched name roots log)
    (search' : Searched name roots log') (same : log ++ more = log' ++ more') : log = log' := by
  induction search generalizing log' with
  | nowhere =>
    cases search'
    rfl
  | found root rest text =>
    cases search' <;> simp_all
  | passed root e searched ih =>
    cases search' with
    | found => simp at same
    | passed _ e' searched' =>
      simp only [List.cons_append, List.cons.injEq] at same
      rw [same.1, ih searched' same.2]

theorem Treatment.Apt.unique {roots : List String} {supported : Bool} {line : List Char}
    {log log' more more' : List (Exchange Host)} (apt : Apt roots supported ⟨line, log⟩)
    (apt' : Apt roots supported ⟨line, log'⟩) (same : log ++ more = log' ++ more') :
    log = log' := by
  unfold Apt at apt apt'
  cases directive : Directive.ofLine line with
  | text =>
    rw [directive] at apt apt'
    exact apt.trans apt'.symm
  | enableCompletion =>
    rw [directive] at apt apt'
    obtain ⟨answer, rfl⟩ := apt
    obtain ⟨answer', rfl⟩ := apt'
    obtain rfl : answer = answer' := by simpa [noticed] using (List.cons.inj same).1
    rfl
  | includeFile name? =>
    rw [directive] at apt apt'
    cases name? with
    | none => exact apt.trans apt'.symm
    | some name => exact Searched.unique apt apt' same

/-- The exchanges of the first line end where its treatment says. -/
theorem Treatment.exchanges_unique {roots : List String} {supported : Bool} {line : List Char}
    {log log' more more' : List (Exchange Host)} {rest rest' : List Treatment}
    (apt : ∀ t ∈ ⟨line, log⟩ :: rest, t.Apt roots supported)
    (apt' : ∀ t ∈ ⟨line, log'⟩ :: rest', t.Apt roots supported)
    (same : Treatment.log (⟨line, log⟩ :: rest) ++ more =
      Treatment.log (⟨line, log'⟩ :: rest') ++ more') :
    log = log' ∧ Treatment.log rest ++ more = Treatment.log rest' ++ more' := by
  simp only [Treatment.log_cons, List.append_assoc] at same
  obtain rfl := (apt _ List.mem_cons_self).unique (apt' _ List.mem_cons_self) same
  exact ⟨rfl, List.append_cancel_left same⟩

/-- Exchanges divide among the lines of a cell in one way. -/
theorem Covered.treatments_unique {roots : List String} {supported : Bool}
    {lines : List (List Char)} {first second : List Treatment} {more more' : List (Exchange Host)}
    (covered : Covered lines first) (covered' : Covered lines second)
    (apt : ∀ t ∈ first, t.Apt roots supported) (apt' : ∀ t ∈ second, t.Apt roots supported)
    (same : Treatment.log first ++ more = Treatment.log second ++ more') : first = second := by
  induction covered generalizing second with
  | nil =>
    cases covered'
    rfl
  | failed rest fails =>
    cases covered' with
    | failed _ fails' => rw [(Treatment.exchanges_unique apt apt' same).1]
    | passed succeeds' covered' =>
      exact absurd ((Treatment.exchanges_unique apt apt' same).1 ▸ fails) succeeds'
  | passed succeeds covered ih =>
    cases covered' with
    | failed _ fails' =>
      exact absurd ((Treatment.exchanges_unique apt apt' same).1 ▸ fails') succeeds
    | passed succeeds' covered' =>
      obtain ⟨rfl, rest⟩ := Treatment.exchanges_unique apt apt' same
      rw [ih covered' (List.forall_mem_cons.mp apt).2 (List.forall_mem_cons.mp apt').2 rest]

end NotebookKernel
