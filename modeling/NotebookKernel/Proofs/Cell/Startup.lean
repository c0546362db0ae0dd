import NotebookKernel.Proofs.Cell.Availability
import NotebookKernel.Proofs.Cell.Forwarding
import NotebookKernel.Proofs.Cell.Unchanged

/-!
When a kernel starts.

A launched target is given up to three pieces of code: the file with the target's side of the
communication, the declaration of the session, and the probe for the width of native integers. The
first that fails is the last. `Preparation` is what became of that; whether the kernel starts, and
what it knows of its target from then on, can be read off it (`Kernel.start_succeeds_iff`).
-/

namespace NotebookKernel

/-! ## Pieces of code one after the other -/

/-- A piece of code that the target was given, and what the debugger answered. -/
structure Submission where
  code : String
  reaction : Reaction

/-- The target is given one piece of code after the other, up to the first that fails. -/
inductive Submitted : (codes : List String) → List Submission → Prop
  | none : Submitted [] []
  | failed {code : String} {r : Reaction} (rest : List String) :
    r.succeeded = false → Submitted (code :: rest) [⟨code, r⟩]
  | passed {code : String} {r : Reaction} {rest : List String} {later : List Submission} :
    r.succeeded = true → Submitted rest later → Submitted (code :: rest) (⟨code, r⟩ :: later)

namespace Submitted

variable {codes : List String} {steps : List Submission}

theorem isPrefix (submitted : Submitted codes steps) : steps.map Submission.code <+: codes := by
  induction submitted with
  | none => exact List.prefix_rfl
  | failed rest _ => exact List.prefix_append [_] rest
  | passed _ _ ih => exact List.cons_prefix_cons.mpr ⟨rfl, ih⟩

/-- What is followed by another piece has not failed. -/
theorem unbroken (submitted : Submitted codes steps) :
    ∀ step ∈ steps.dropLast, step.reaction.succeeded = true := by
  induction submitted with
  | none => exact List.forall_mem_nil _
  | failed => exact List.forall_mem_nil _
  | @passed code r rest later succeeded _ ih =>
    cases later with
    | nil => exact List.forall_mem_nil _
    | cons second later => exact List.forall_mem_cons.mpr ⟨succeeded, ih⟩

/-- Only a failure keeps the target from being given the rest. -/
theorem halted (submitted : Submitted codes steps) :
    steps.map Submission.code = codes ∨
      ∃ step, steps.getLast? = some step ∧ step.reaction.succeeded = false := by
  induction submitted with
  | none => exact .inl rfl
  | failed rest failed => exact .inr ⟨_, rfl, failed⟩
  | passed _ _ ih =>
    rcases ih with whole | ⟨step, last, failed⟩
    · exact .inl (congrArg _ whole)
    · refine .inr ⟨step, ?_, failed⟩
      rw [List.getLast?_cons, last]
      rfl

/-- When all that was given has run to its end, the target can be given more. -/
theorem append {more : List String} {later : List Submission} (submitted : Submitted codes steps)
    (heeded : ∀ step ∈ steps, step.reaction.succeeded = true) (rest : Submitted more later) :
    Submitted (codes ++ more) (steps ++ later) := by
  induction submitted with
  | none => exact rest
  | failed _ failed => exact absurd (heeded _ List.mem_cons_self) (by simp [failed])
  | passed succeeded _ ih =>
    exact .passed succeeded (ih (List.forall_mem_cons.mp heeded).2)

/-- After a failure it is given no more. -/
theorem stopped (submitted : Submitted codes steps)
    (failed : ¬ ∀ step ∈ steps, step.reaction.succeeded = true) (more : List String) :
    Submitted (codes ++ more) steps := by
  induction submitted with
  | none => exact absurd (List.forall_mem_nil _) failed
  | failed rest unsuccessful => exact .failed (rest ++ more) unsuccessful
  | passed succeeded _ ih =>
    refine .passed succeeded (ih fun heeded => failed ?_)
    exact List.forall_mem_cons.mpr ⟨succeeded, heeded⟩

theorem one (code : String) (r : Reaction) : Submitted [code] [⟨code, r⟩] := by
  cases succeeded : r.succeeded with
  | true => exact .passed succeeded .none
  | false => exact .failed [] succeeded

theorem whole (submitted : Submitted codes steps)
    (heeded : ∀ step ∈ steps, step.reaction.succeeded = true) :
    steps.map Submission.code = codes := by
  rcases submitted.halted with whole | ⟨step, last, failed⟩
  · exact whole
  · exact absurd (heeded step (List.mem_of_getLast? last)) (by simp [failed])

end Submitted

/-- The exchanges in which the target is given some pieces of code. -/
def Kernel.submissions (k : Kernel) (steps : List Submission) : List (Exchange Host) :=
  steps.flatMap fun step => k.submission step.code step.reaction

/-- A snippet with this reaction ends so: in an error unless its code ran to its end. -/
def Reaction.Decides (r : Reaction) (result : Except Error Unit) : Prop :=
  result = .ok () ∧ r.succeeded = true ∨ (∃ e, result = .error e) ∧ r.succeeded = false

/-- The probe gave a value whose description is the number of bits, perhaps between blanks. -/
def Reaction.Tells (r : Reaction) (width : NativeWidth) : Prop :=
  ∃ value bits, r.outcome = .ok (.gave value) ∧
    Numeral.below? (Nat.pow 2 32) (Text.trim value.description.toList) = some bits ∧
      bits = 8 * width.bytes

theorem Reaction.Tells.succeeded {r : Reaction} {width : NativeWidth} (told : r.Tells width) :
    r.succeeded = true := by
  obtain ⟨value, bits, outcome, -, -⟩ := told
  rw [Reaction.succeeded, outcome]
  rfl

theorem Reaction.Tells.unique {r : Reaction} {width other : NativeWidth} (told : r.Tells width)
    (told' : r.Tells other) : width = other := by
  obtain ⟨value, bits, outcome, shown, same⟩ := told
  obtain ⟨value', bits', outcome', shown', same'⟩ := told'
  cases outcome.symm.trans outcome'
  have bits_eq : 8 * width.bytes = 8 * other.bytes := by
    rw [← same, ← same']
    exact Option.some.inj (shown.symm.trans shown')
  cases width <;> cases other <;> first | rfl | exact absurd bits_eq (by decide)

/-! ## The file of the communication -/

/-- The text that was read through an exchange. -/
def Exchange.text? : Exchange Host → Option String
  | ⟨.readText _, .ok text⟩ => some text
  | _ => none

theorem Expander.findText_found {name : String} {roots : List String} {text? : Option String} :
    ∀ {log : List (Exchange Host)}, (findText name roots).Gives log text? →
      text? = log.findSome? Exchange.text? := by
  induction roots with
  | nil =>
    intro log run
    obtain ⟨rfl, rfl⟩ := run.of_done
    rfl
  | cons root rest ih =>
    intro log run
    obtain ⟨answer, later, rfl, rest⟩ := run.of_ask
    cases answer with
    | ok text =>
      obtain ⟨rfl, rfl⟩ := rest.of_done
      rfl
    | error e =>
      rw [ih rest]
      rfl

/-- A text of one line is expanded as its line is. -/
theorem Expander.run_of_line {p : Expander} {source file : String} {s : CompletionState}
    (oneLine : '\n' ∉ source.toList) :
    (p.run source file).run.run s = (p.line file 1 source.toList).run.run s := by
  unfold run
  rw [Text.lines_of_not_mem oneLine, map_eq_pure_bind, Layers.run_bind]
  unfold lines
  rw [Layers.run_bind, Program.bind_assoc]
  refine Eq.trans (congrArg _ (funext fun ending => ?_)) (Program.bind_done _)
  obtain ⟨result, after⟩ := ending
  cases result with
  | error e => rfl
  | ok text => rfl

namespace Kernel

variable {k k' : Kernel} {log : List (Exchange Host)} {source : String}

theorem expand_of_directiveFree (free : DirectiveFree source) (k : Kernel) :
    (expand source k : Act (Except ExpansionError String × Kernel)) = .done (.ok source, k) := by
  unfold expand
  rw [Expander.run_of_directiveFree free]
  rfl

/-- A text that is one include line is expanded to the file, if there is one. -/
theorem expand_include {name : String} (oneLine : '\n' ∉ source.toList)
    (directive : Directive.ofLine source.toList = .includeFile (some name.toList)) (k : Kernel) :
    (expand source k : Act (Except ExpansionError String × Kernel)) =
      (Expander.findText name k.expander.includePath.roots).bind fun
        | some text => .done (.ok (k.expander.splice name text k.cellName 1), k)
        | none => .done (.error (.fileNotFound 1 name k.expander.includePath.roots), k) := by
  change ((k.expander.run source k.cellName).run.run k.completion).bind _ = _
  rw [Expander.run_of_line oneLine]
  unfold Expander.line
  rw [directive]
  dsimp only
  rw [Expander.includeText_run, Program.bind_assoc, String.ofList_toList]
  congr 1
  funext found
  cases found <;> rfl

/-! ## Snippets -/

/-- The exchanges of a snippet whose expansion is known: it is submitted, and fails as the code
does. -/
theorem runSnippet_gives {complaint : String} {result : Except Error Unit}
    (run : ((runSnippet complaint source).run.run k).Gives log (result, k')) :
    ∃ first second expanded middle, log = first ++ second ∧
      (expand source k).Gives first (expanded, middle) ∧ k' = middle ∧
      match expanded with
      | .error _ => second = [] ∧ ∃ e, result = .error e
      | .ok code => ∃ r : Reaction, second = middle.submission code r ∧
        r.Decides result := by
  unfold runSnippet at run
  rw [Layers.run_bind] at run
  obtain ⟨submitting, checking, ⟨outcome, last⟩, rfl, submitted, checked⟩ := run.of_bind
  unfold expandAndSubmit at submitted
  rw [Layers.run_bind] at submitted
  obtain ⟨first, second, ⟨lifted, middle⟩, rfl, lifting, executed⟩ := submitted.of_bind
  obtain ⟨expanded, rfl, expands⟩ := lift_expand_gives lifting
  cases expanded with
  | error e =>
    obtain ⟨rfl, same⟩ := executed.of_done
    cases same
    obtain ⟨rfl, same⟩ := checked.of_done
    cases same
    exact ⟨first, [], .error e, _, by simp, expands, rfl, rfl, _, rfl⟩
  | ok code =>
    obtain ⟨rfl, executed⟩ := reading_gives executed
    obtain ⟨r, rfl, rfl⟩ := execute_gives executed
    have ends : checking = [] ∧ k' = last ∧ r.Decides result := by
      unfold Reaction.Decides Reaction.succeeded
      cases outcome : r.outcome with
      | error e =>
        rw [outcome] at checked
        obtain ⟨rfl, same⟩ := checked.of_done
        cases same
        exact ⟨rfl, rfl, .inr ⟨⟨e, rfl⟩, rfl⟩⟩
      | ok outcome' =>
        rw [outcome] at checked
        cases outcome' with
        | finished | gave _ =>
          obtain ⟨rfl, same⟩ := checked.of_done
          cases same
          exact ⟨rfl, rfl, .inl ⟨rfl, rfl⟩⟩
        | notExpanded _ | failed _ =>
          obtain ⟨rfl, same⟩ := checked.of_done
          cases same
          exact ⟨rfl, rfl, .inr ⟨⟨_, rfl⟩, rfl⟩⟩
    obtain ⟨rfl, rfl, ends⟩ := ends
    exact ⟨first, _, .ok code, _, by simp, expands, rfl, r, rfl, ends⟩

/-- A snippet that is no directive is submitted as it is. -/
theorem runSnippet_plain {complaint : String} {result : Except Error Unit}
    (free : DirectiveFree source)
    (run : ((runSnippet complaint source).run.run k).Gives log (result, k')) :
    k' = k ∧ ∃ r : Reaction, log = k.submission source r ∧
      r.Decides result := by
  obtain ⟨first, second, expanded, middle, rfl, expands, rfl, rest⟩ := runSnippet_gives run
  rw [expand_of_directiveFree free] at expands
  obtain ⟨rfl, same⟩ := expands.of_done
  cases same
  exact ⟨rfl, rest⟩

/-- A snippet that is one include line is the file, if there is one. -/
theorem runSnippet_include {complaint : String} {result : Except Error Unit} (name : String)
    (oneLine : '\n' ∉ source.toList)
    (directive : Directive.ofLine source.toList = .includeFile (some name.toList))
    (run : ((runSnippet complaint source).run.run k).Gives log (result, k')) :
    k' = k ∧ ∃ search submitted, log = search ++ submitted ∧
      Searched name k.expander.includePath.roots search ∧
      match search.findSome? Exchange.text? with
      | none => submitted = [] ∧ ∃ e, result = .error e
      | some text => ∃ r : Reaction,
        submitted = k.submission (k.expander.splice name text k.cellName 1) r ∧
        r.Decides result := by
  obtain ⟨first, second, expanded, middle, rfl, expands, rfl, rest⟩ := runSnippet_gives run
  rw [expand_include oneLine directive] at expands
  obtain ⟨search, _, found, rfl, searches, replaced⟩ := expands.of_bind
  obtain ⟨searched, -⟩ := Expander.findText_searches searches
  obtain rfl := Expander.findText_found searches
  cases found : search.findSome? Exchange.text? with
  | none =>
    rw [found] at replaced
    obtain ⟨rfl, same⟩ := replaced.of_done
    cases same
    exact ⟨rfl, search, second, by simp, searched, by rw [found]; exact rest⟩
  | some text =>
    rw [found] at replaced
    obtain ⟨rfl, same⟩ := replaced.of_done
    cases same
    exact ⟨rfl, search, second, by simp, searched, by rw [found]; exact rest⟩

/-! ## The probe -/

theorem ofBits_eq_ok_iff {bits : Nat} {width : NativeWidth} :
    NativeWidth.ofBits bits = .ok width ↔ bits = 8 * width.bytes := by
  unfold NativeWidth.ofBits
  cases width with
  | bits32 =>
    change _ ↔ bits = 32
    split
    · simp [*]
    · split <;> simp [*]
  | bits64 =>
    change _ ↔ bits = 64
    split
    · simp [*]
    · split <;> simp [*]

theorem widthOfDescription_eq_ok_iff {probe description : String} {width : NativeWidth} :
    widthOfDescription probe description = .ok width ↔ ∃ bits,
      Numeral.below? (Nat.pow 2 32) (Text.trim description.toList) = some bits ∧
        bits = 8 * width.bytes := by
  unfold widthOfDescription
  cases Numeral.below? (Nat.pow 2 32) (Text.trim description.toList) with
  | none => simp
  | some bits => simp [ofBits_eq_ok_iff]

theorem liftExcept_gives {α : Type} {value result : Except Error α}
    (run : (liftExcept value : Action α).run.Gives log result) : log = [] ∧ result = value := by
  cases value <;> exact run.of_done

/-- The probe is submitted, and the width is what its value tells. -/
theorem probeWidth_gives {result : Except Error NativeWidth}
    (run : (probeWidth k).run.Gives log result) :
    ∃ r : Reaction, log = k.submission k.language.widthProbe r ∧
      ∀ width, result = .ok width ↔ r.Tells width := by
  obtain ⟨_, told, outcome, rfl, executed, read⟩ := Program.Gives.of_bind run
  obtain ⟨r, rfl, rfl⟩ := execute_gives executed
  refine ⟨r, ?_⟩
  unfold Reaction.Tells
  cases outcome : r.outcome with
  | error e =>
    rw [outcome] at read
    obtain ⟨rfl, rfl⟩ := read.of_done
    exact ⟨List.append_nil _, by simp⟩
  | ok outcome' =>
    rw [outcome] at read
    cases outcome' with
    | finished | notExpanded _ | failed _ =>
      obtain ⟨rfl, rfl⟩ := read.of_done
      exact ⟨List.append_nil _, by simp⟩
    | gave value =>
      obtain ⟨rfl, rfl⟩ := liftExcept_gives read
      refine ⟨List.append_nil _, fun width => ?_⟩
      rw [widthOfDescription_eq_ok_iff]
      simp

end Kernel

/-! ## Preparing a target -/

/-- What was done to prepare a target: the search for the file of the communication, and the pieces
of code that the target was given. -/
structure Preparation where
  search : List (Exchange Host)
  steps : List Submission

namespace Preparation

/-- The code that a target is to be given: the file if it was found, the declaration and the probe,
or the probe alone where there is no communication. -/
def planned (settings : StartPlan) (k : Kernel) (x : Preparation) : List String :=
  match settings.language.communicator, x.search.findSome? Exchange.text? with
  | none, _ => [settings.language.widthProbe]
  | some _, none => []
  | some file, some text =>
    [k.expander.splice file text k.cellName 1, settings.language.declareSession settings.identity,
      settings.language.widthProbe]

/-- The file is searched for first, if there is one. Then the target is given code as planned, in
order, up to the first piece that fails. -/
structure Of (settings : StartPlan) (k : Kernel) (x : Preparation) : Prop where
  unsearched : settings.language.communicator = none → x.search = []
  searched : ∀ file, settings.language.communicator = some file →
    Searched file settings.includePath.roots x.search
  submitted : Submitted (x.planned settings k) x.steps

/-- The target can be used: the file was found, all code was given, the file and the declaration did
not fail, and the probe told the width. -/
structure Usable (settings : StartPlan) (k : Kernel) (x : Preparation) (width : NativeWidth) :
    Prop where
  resolved : settings.language.communicator = none ∨
    (x.search.findSome? Exchange.text?).isSome = true
  given : x.steps.map Submission.code = x.planned settings k
  heeded : ∀ step ∈ x.steps.dropLast, step.reaction.succeeded = true
  told : ∃ probe, x.steps.getLast? = some probe ∧ probe.reaction.Tells width

variable {settings : StartPlan} {k : Kernel} {x : Preparation} {width : NativeWidth}

/-- In a target that can be used no code failed, the probe included. -/
theorem Usable.all_heeded (usable : x.Usable settings k width) :
    ∀ step ∈ x.steps, step.reaction.succeeded = true := by
  obtain ⟨probe, last, told⟩ := usable.told
  rw [← List.dropLast_append_getLast? probe last, List.forall_mem_append, List.forall_mem_singleton]
  exact ⟨usable.heeded, told.succeeded⟩

/-- The width is the one that the probe told. -/
theorem Usable.width_unique {other : NativeWidth} (usable : x.Usable settings k width)
    (usable' : x.Usable settings k other) : width = other := by
  obtain ⟨probe, last, told⟩ := usable.told
  obtain ⟨probe', last', told'⟩ := usable'.told
  cases last.symm.trans last'
  exact told.unique told'

/-- When everything before the probe went well, the probe decides. -/
theorem usable_iff_tells {search : List (Exchange Host)} {codes : List String}
    {steps : List Submission} {r : Reaction}
    (planned : (mk search (steps ++ [⟨settings.language.widthProbe, r⟩])).planned settings k =
      codes ++ [settings.language.widthProbe])
    (submitted : Submitted codes steps)
    (heeded : ∀ step ∈ steps, step.reaction.succeeded = true)
    (resolved : settings.language.communicator = none ∨
      (search.findSome? Exchange.text?).isSome = true) :
    (mk search (steps ++ [⟨settings.language.widthProbe, r⟩])).Usable settings k width ↔
      r.Tells width := by
  constructor
  · intro usable
    obtain ⟨probe, last, told⟩ := usable.told
    rw [List.getLast?_concat] at last
    cases last
    exact told
  · intro told
    refine ⟨resolved, ?_, ?_, _, List.getLast?_concat, told⟩
    · rw [planned, List.map_append, submitted.whole heeded]
      rfl
    · rw [List.dropLast_concat]
      exact heeded

/-- The exchanges. -/
def log (k : Kernel) (x : Preparation) : List (Exchange Host) :=
  x.search ++ k.submissions x.steps

/-- The probe told the width, which the kernel knows then, or it did not. -/
def Probed (k : Kernel) (r : Reaction) (result : Except Error Unit) (k' : Kernel) : Prop :=
  (∃ width, result = .ok () ∧ k' = { k with session := k.session.fixWidth width } ∧
      r.Tells width) ∨
    (∃ e, result = .error e) ∧ ∀ width, ¬ r.Tells width

/-- The preparation ends well if the target can be used, and only then. -/
def Ends (settings : StartPlan) (k : Kernel) (x : Preparation) (result : Except Error Unit)
    (k' : Kernel) : Prop :=
  (∃ width, result = .ok () ∧ k' = { k with session := k.session.fixWidth width } ∧
      x.Usable settings k width) ∨
    (∃ e, result = .error e) ∧ ∀ width, ¬ x.Usable settings k width

section Cases

variable {file text : String} {search : List (Exchange Host)} {steps : List Submission}
  {r : Reaction} {e : Error} {result : Except Error Unit} {k' : Kernel}

/-- When everything before the probe went well, the preparation ends as the probe does. -/
theorem ends_of_probed {codes : List String}
    (planned : (mk search (steps ++ [⟨settings.language.widthProbe, r⟩])).planned settings k =
      codes ++ [settings.language.widthProbe])
    (submitted : Submitted codes steps)
    (heeded : ∀ step ∈ steps, step.reaction.succeeded = true)
    (resolved : settings.language.communicator = none ∨
      (search.findSome? Exchange.text?).isSome = true)
    (probed : Probed k r result k') :
    (mk search (steps ++ [⟨settings.language.widthProbe, r⟩])).Ends settings k result k' := by
  have usable : ∀ width, _ ↔ r.Tells width := fun width =>
    usable_iff_tells planned submitted heeded resolved
  unfold Ends
  simp only [usable]
  exact probed

/-- Where there is no communication the probe is all that the target is given. -/
theorem of_silent (silent : settings.language.communicator = none)
    (probed : Probed k r result k') :
    (mk [] [⟨settings.language.widthProbe, r⟩]).Of settings k ∧
      (mk [] [⟨settings.language.widthProbe, r⟩]).Ends settings k result k' := by
  have planned : (mk [] [⟨settings.language.widthProbe, r⟩]).planned settings k =
      [] ++ [settings.language.widthProbe] := by
    simp [Preparation.planned, silent]
  refine ⟨⟨fun _ => rfl, ?_, ?_⟩,
    ends_of_probed planned .none (List.forall_mem_nil _) (.inl silent) probed⟩
  · simp [silent]
  · rw [planned]
    exact .one _ r

/-- Without the file of the communication the target is given nothing. -/
theorem of_missing (communicator : settings.language.communicator = some file)
    (searched : Searched file settings.includePath.roots search)
    (missing : search.findSome? Exchange.text? = none) :
    (mk search []).Of settings k ∧ (mk search []).Ends settings k (.error e) k' := by
  refine ⟨⟨?_, ?_, ?_⟩, .inr ⟨⟨e, rfl⟩, fun width usable => ?_⟩⟩
  · simp [communicator]
  · simp [communicator, searched]
  · simp [Preparation.planned, communicator, missing, Submitted.none]
  · simpa [communicator, missing] using usable.resolved

theorem planned_of_found (communicator : settings.language.communicator = some file)
    (found : search.findSome? Exchange.text? = some text) :
    (mk search steps).planned settings k =
      [k.expander.splice file text k.cellName 1,
        settings.language.declareSession settings.identity] ++ [settings.language.widthProbe] := by
  unfold planned
  dsimp only
  rw [communicator, found]
  rfl

theorem of_found (communicator : settings.language.communicator = some file)
    (searched : Searched file settings.includePath.roots search)
    (submitted : Submitted ((mk search steps).planned settings k) steps) :
    (mk search steps).Of settings k := by
  refine ⟨?_, ?_, submitted⟩
  · simp [communicator]
  · simp [communicator, searched]

/-- A piece of the communication that fails is the last that the target is given. -/
theorem of_refused (communicator : settings.language.communicator = some file)
    (searched : Searched file settings.includePath.roots search)
    (found : search.findSome? Exchange.text? = some text)
    (submitted : Submitted [k.expander.splice file text k.cellName 1,
      settings.language.declareSession settings.identity] steps)
    (unheeded : ¬ ∀ step ∈ steps, step.reaction.succeeded = true) :
    (mk search steps).Of settings k ∧ (mk search steps).Ends settings k (.error e) k' := by
  refine ⟨of_found communicator searched ?_,
    .inr ⟨⟨e, rfl⟩, fun width usable => unheeded usable.all_heeded⟩⟩
  rw [planned_of_found communicator found]
  exact submitted.stopped unheeded _

/-- With the communication in place the probe decides. -/
theorem of_included (communicator : settings.language.communicator = some file)
    (searched : Searched file settings.includePath.roots search)
    (found : search.findSome? Exchange.text? = some text)
    (submitted : Submitted [k.expander.splice file text k.cellName 1,
      settings.language.declareSession settings.identity] steps)
    (heeded : ∀ step ∈ steps, step.reaction.succeeded = true) (probed : Probed k r result k') :
    (mk search (steps ++ [⟨settings.language.widthProbe, r⟩])).Of settings k ∧
      (mk search (steps ++ [⟨settings.language.widthProbe, r⟩])).Ends settings k result k' := by
  have planned : (mk search (steps ++ [⟨settings.language.widthProbe, r⟩])).planned settings k = _ :=
    planned_of_found communicator found
  refine ⟨of_found communicator searched ?_, ends_of_probed planned submitted heeded
    (.inr (by rw [found]; rfl)) probed⟩
  rw [planned]
  exact submitted.append heeded (.one _ r)

end Cases

end Preparation

/-- The languages for which it is known what their snippets are expanded to. -/
def TargetLanguage.Known (language : TargetLanguage) : Prop :=
  language = .swift ∨ language.communicator = none

/-- White space in front of a line makes no difference. -/
theorem Directive.ofLine_blanks {blanks line : List Char}
    (blank : ∀ c ∈ blanks, Text.isBlank c = true) : ofLine (blanks ++ line) = ofLine line := by
  unfold ofLine
  rw [List.dropWhile_append_of_pos blank]

namespace TargetLanguage

theorem directiveFree_declareSession_swift (identity : NotebookIdentity) :
    DirectiveFree (swift.declareSession identity) := by
  have front : "            id: ".toList = "            ".toList ++ 'i' :: "d: ".toList := by
    decide
  have blanks : "            ".toList.all Text.isBlank = true := by decide
  have line : Directive.ofLine (identityLine identity).toList = .text := by
    unfold identityLine
    rw [String.toList_append, front, List.append_assoc, List.cons_append,
      Directive.ofLine_blanks (List.all_eq_true.mp blanks)]
    exact Directive.ofLine_of_head (by decide) (by decide)
  rw [directiveFree_iff, lines_declareSession_swift]
  simp only [List.forall_mem_cons]
  exact ⟨by decide, by decide, by decide, line, by decide, List.forall_mem_nil _⟩

end TargetLanguage

namespace Kernel

variable {k k' : Kernel} {log : List (Exchange Host)} {settings : StartPlan}
  {identity : NotebookIdentity}

/-- In Swift the target is given the file of the communication, if it is found, and the
declaration. -/
theorem startCommunicator_gives {result : Except Error Unit} (swift : k.language = .swift)
    (run : ((startCommunicator identity).run.run k).Gives log (result, k')) :
    k' = k ∧ ∃ search steps, log = search ++ k.submissions steps ∧
      Searched "KernelCommunicator.swift" k.expander.includePath.roots search ∧
      match search.findSome? Exchange.text? with
      | none => steps = [] ∧ ∃ e, result = .error e
      | some text =>
        Submitted [k.expander.splice "KernelCommunicator.swift" text k.cellName 1,
          TargetLanguage.swift.declareSession identity] steps ∧
        (result = .ok () ∧ (∀ step ∈ steps, step.reaction.succeeded = true) ∨
          (∃ e, result = .error e) ∧ ¬ ∀ step ∈ steps, step.reaction.succeeded = true) := by
  unfold startCommunicator at run
  rw [Layers.run_bind] at run
  obtain ⟨_, _, ⟨_, l⟩, rfl, got, run⟩ := run.of_bind
  obtain ⟨rfl, same⟩ := got.of_done
  cases same
  dsimp only at run
  rw [swift] at run
  change ((runSnippet _ _ >>= fun _ => runSnippet _ _ : KernelAction Unit).run.run k).Gives _ _
    at run
  rw [Layers.run_bind] at run
  obtain ⟨first, second, ⟨included, middle⟩, rfl, includes, declares⟩ := run.of_bind
  obtain ⟨same, search, submitted, rfl, searched, read⟩ :=
    runSnippet_include "KernelCommunicator.swift" (by decide) (by decide) includes
  subst middle
  cases found : search.findSome? Exchange.text? with
  | none =>
    rw [found] at read
    obtain ⟨rfl, e, rfl⟩ := read
    obtain ⟨rfl, same⟩ := declares.of_done
    cases same
    refine ⟨rfl, search, [], by simp [submissions], searched, ?_⟩
    rw [found]
    exact ⟨rfl, e, rfl⟩
  | some text =>
    rw [found] at read
    obtain ⟨r, rfl, decided⟩ := read
    let included := k.expander.splice "KernelCommunicator.swift" text k.cellName 1
    rcases decided with ⟨rfl, heeded⟩ | ⟨⟨e, rfl⟩, failed⟩
    · obtain ⟨rfl, r', rfl, decided⟩ :=
        runSnippet_plain (TargetLanguage.directiveFree_declareSession_swift identity) declares
      refine ⟨rfl, search, [⟨included, r⟩, ⟨TargetLanguage.swift.declareSession identity, r'⟩],
        by simp [submissions, included], searched, ?_⟩
      rw [found]
      rcases decided with ⟨rfl, heeded'⟩ | ⟨refused, failed⟩
      · refine ⟨.passed heeded (.passed heeded' .none), .inl ⟨rfl, ?_⟩⟩
        exact List.forall_mem_cons.mpr ⟨heeded, List.forall_mem_singleton.mpr heeded'⟩
      · exact ⟨.passed heeded (.failed [] failed), .inr ⟨refused, by simp [failed]⟩⟩
    · obtain ⟨rfl, same⟩ := declares.of_done
      cases same
      refine ⟨rfl, search, [⟨included, r⟩], by simp [submissions, included], searched, ?_⟩
      rw [found]
      exact ⟨.failed _ failed, .inr ⟨⟨e, rfl⟩, by simp [failed]⟩⟩

/-- What is left to do for a target: the probe. -/
theorem probing_gives {result : Except Error Unit}
    (run : ((do let width ← KernelAction.reading probeWidth
                modify fun k => { k with session := k.session.fixWidth width } :
      KernelAction Unit).run.run k).Gives log (result, k')) :
    ∃ r : Reaction, log = k.submission k.language.widthProbe r ∧
      Preparation.Probed k r result k' := by
  rw [Layers.run_bind] at run
  obtain ⟨_, _, ⟨probed, middle⟩, rfl, probes, fixes⟩ := run.of_bind
  obtain ⟨rfl, probes⟩ := reading_gives probes
  obtain ⟨r, rfl, tells⟩ := probeWidth_gives probes
  cases probed with
  | error e =>
    obtain ⟨rfl, same⟩ := fixes.of_done
    cases same
    exact ⟨r, List.append_nil _, .inr ⟨⟨e, rfl⟩, fun width told => nomatch (tells width).mpr told⟩⟩
  | ok width =>
    obtain ⟨rfl, same⟩ := fixes.of_done
    cases same
    exact ⟨r, List.append_nil _, .inl ⟨width, rfl, rfl, (tells width).mp rfl⟩⟩

/-- Where there is no communication, nothing is done for it. -/
theorem startCommunicator_silent (silent : k.language.communicator = none) :
    (startCommunicator identity).run.run k = .done (.ok (), k) := by
  unfold startCommunicator
  rw [Layers.run_bind]
  change ((match k.language.communicator with
    | none => pure ()
    | some file => _ : KernelAction Unit).run.run k) = _
  rw [silent]
  rfl

/-- Preparing a target ends well if the target can be used, and only then. -/
theorem prepare_gives {result : Except Error Unit} (known : settings.language.Known)
    (expander : k.expander = ⟨settings.language, settings.includePath⟩)
    (run : ((prepare settings.identity).run.run k).Gives log (result, k')) :
    ∃ x : Preparation, log = x.log k ∧ x.Of settings k ∧ x.Ends settings k result k' := by
  have language : k.language = settings.language := congrArg Expander.language expander
  unfold prepare at run
  rw [Layers.run_bind] at run
  obtain ⟨_, _, ⟨started, middle⟩, rfl, starts, probes⟩ := run.of_bind
  rcases known with swift | silent
  · have communicator : settings.language.communicator = some "KernelCommunicator.swift" := by
      rw [swift]
      rfl
    obtain ⟨same, search, steps, rfl, searched, rest⟩ :=
      startCommunicator_gives (language.trans swift) starts
    subst middle
    rw [expander] at searched
    cases found : search.findSome? Exchange.text? with
    | none =>
      rw [found] at rest
      obtain ⟨rfl, e, rfl⟩ := rest
      obtain ⟨rfl, same⟩ := probes.of_done
      cases same
      exact ⟨⟨search, []⟩, List.append_nil _, Preparation.of_missing communicator searched found⟩
    | some text =>
      rw [found] at rest
      obtain ⟨submitted, ends⟩ := rest
      rw [← swift] at submitted
      rcases ends with ⟨rfl, heeded⟩ | ⟨⟨e, rfl⟩, unheeded⟩
      · obtain ⟨r, rfl, probed⟩ := probing_gives probes
        refine ⟨⟨search, steps ++ [⟨settings.language.widthProbe, r⟩]⟩, ?_,
          Preparation.of_included communicator searched found submitted heeded probed⟩
        simp [Preparation.log, submissions, language]
      · obtain ⟨rfl, same⟩ := probes.of_done
        cases same
        exact ⟨⟨search, steps⟩, List.append_nil _,
          Preparation.of_refused communicator searched found submitted unheeded⟩
  · rw [startCommunicator_silent (language ▸ silent)] at starts
    obtain ⟨rfl, same⟩ := starts.of_done
    cases same
    obtain ⟨r, rfl, probed⟩ := probing_gives probes
    refine ⟨⟨[], [⟨settings.language.widthProbe, r⟩]⟩, ?_, Preparation.of_silent silent probed⟩
    simp [Preparation.log, submissions, language]

end Kernel

/-! ## Reading the queue when the width is known -/

/-- The error with which the debugger answered a look at a value or at memory. -/
def Exchange.inspectionError? : Exchange Host → Option Error
  | ⟨.debugger (.children _), .error e⟩ => some e
  | ⟨.debugger (.member _ _), .error e⟩ => some e
  | ⟨.debugger (.storage _), .error e⟩ => some e
  | ⟨.debugger (.memoryAt _ _), .error e⟩ => some e
  | _ => none

/-- The action ends in the error only if the debugger answered with it. -/
def PassesOn {α : Type} (error : Error) (action : Action α) : Prop :=
  ∀ log, action.run.Gives log (.error error) →
    ∃ exchange ∈ log, exchange.inspectionError? = some error

section PassesOn

variable {α β : Type} {error : Error}

theorem PassesOn.bind {p : Action α} {f : α → Action β} (first : PassesOn error p)
    (later : ∀ a, PassesOn error (f a)) : PassesOn error (p >>= f) := by
  intro log run
  obtain ⟨front, back, result, rfl, left, right⟩ := Program.Gives.of_bind run
  cases result with
  | error e =>
    obtain ⟨rfl, same⟩ := right.of_done
    cases same
    rw [List.append_nil]
    exact first front left
  | ok a =>
    obtain ⟨exchange, mem, from_⟩ := later a back right
    exact ⟨exchange, List.mem_append_right _ mem, from_⟩

theorem passesOn_of_ne {value : Except Error α} (other : value ≠ .error error) :
    PassesOn error (liftExcept value) := by
  intro log run
  exact absurd (Kernel.liftExcept_gives run).2.symm other

theorem passesOn_pure (a : α) : PassesOn error (pure a) := by
  intro log run
  cases run.of_done.2

/-- What the debugger is asked fails as the debugger answers. -/
theorem passesOn_ask {r : Host.Request} {next : Host.Answer r → Act (Except Error α)}
    (blamed : ∀ answer log, (next answer).Gives log (.error error) →
      Exchange.inspectionError? ⟨r, answer⟩ = some error) :
    PassesOn error (ExceptT.mk (.ask r next)) := by
  intro log run
  obtain ⟨answer, rest, rfl, later⟩ := Program.Gives.of_ask run
  exact ⟨_, List.mem_cons_self, blamed answer rest later⟩

theorem passesOn_children (h : Handle) : PassesOn error (Session.children h) := by
  refine passesOn_ask fun answer log failed => ?_
  obtain ⟨-, rfl⟩ := failed.of_done
  rfl

theorem passesOn_storage (h : Handle) : PassesOn error (Session.storage h) := by
  refine passesOn_ask fun answer log failed => ?_
  obtain ⟨-, rfl⟩ := failed.of_done
  rfl

theorem passesOn_member {name : String} (other : error ≠ .noMember name) (h : Handle) :
    PassesOn error (Session.member h name) := by
  refine passesOn_ask fun answer log failed => ?_
  cases answer with
  | error e =>
    cases failed.of_done.2
    rfl
  | ok found =>
    cases found with
    | none => exact absurd (Except.error.inj failed.of_done.2) other
    | some ref => cases failed.of_done.2

theorem passesOn_memoryAt (address length : Nat) :
    PassesOn error (Session.memoryAt address length) := by
  intro log run
  obtain ⟨_, _, rfl, locked⟩ := Program.Gives.of_ask run
  obtain ⟨answer, _, rfl, read⟩ := locked.of_ask
  obtain ⟨_, _, rfl, unlocked⟩ := read.of_ask
  obtain ⟨rfl, rfl⟩ := unlocked.of_done
  exact ⟨_, List.mem_cons_of_mem _ List.mem_cons_self, rfl⟩

end PassesOn

theorem Storage.slice_ne_notProbed (s : Storage) (offset size : Nat) (what : String) :
    s.slice offset size what ≠ .error .widthNotProbed := by
  unfold slice
  split <;> simp

theorem Storage.address_ne_notProbed (s : Storage) (offset : Nat) :
    s.address offset ≠ .error .widthNotProbed := by
  unfold address
  split
  · next e refused =>
    intro same
    cases same
    exact s.slice_ne_notProbed _ _ _ refused
  · split <;> simp

theorem Storage.signed_ne_notProbed (s : Storage) (offset : Nat) (width : NativeWidth) :
    s.signed offset width ≠ .error .widthNotProbed := by
  unfold signed
  split
  · next e refused =>
    intro same
    cases same
    exact s.slice_ne_notProbed _ _ _ refused
  · simp

namespace QueuedMessage

variable {session : Session} {width : NativeWidth}

theorem passesOn_bytesAt (address : Nat) (length : Int) :
    PassesOn .widthNotProbed (bytesAt address length) := by
  unfold bytesAt
  split
  · exact passesOn_pure []
  · split
    · have negative : (.error (.negativeLength length) : Except Error Bytes) ≠
          .error .widthNotProbed := nofun
      exact passesOn_of_ne negative
    · exact passesOn_memoryAt address length.toNat

theorem passesOn_readPart (probed : session.probedWidth = .ok width) (part : Handle) :
    PassesOn .widthNotProbed (readPart session part) := by
  unfold readPart
  refine .bind (passesOn_member (by simp) part) fun position => ?_
  refine .bind (passesOn_storage position) fun stored => ?_
  refine .bind (passesOn_of_ne (stored.address_ne_notProbed 0)) fun address => ?_
  refine .bind (passesOn_member (by simp) part) fun count => ?_
  refine .bind (passesOn_storage count) fun stored => ?_
  refine .bind (passesOn_of_ne (by simp [probed])) fun width => ?_
  refine .bind (passesOn_of_ne (stored.signed_ne_notProbed 0 width)) fun length => ?_
  exact passesOn_bytesAt address length

theorem passesOn_readParts (probed : session.probedWidth = .ok width) (parts : List Handle) :
    PassesOn .widthNotProbed (readParts session parts) := by
  induction parts with
  | nil => exact passesOn_pure []
  | cons part rest ih =>
    refine (passesOn_readPart probed part).bind fun bytes => ?_
    exact ih.bind fun others => passesOn_pure (bytes :: others)

/-- With the width at hand, a message is unreadable for want of it only if the debugger says so. -/
theorem passesOn_read (probed : session.probedWidth = .ok width) (payload : Handle) :
    PassesOn .widthNotProbed (read session payload) :=
  (passesOn_children payload).bind fun parts => passesOn_readParts probed parts

end QueuedMessage

/-! ## The start -/

/-- Nothing is broadcast when code is submitted. -/
theorem Kernel.offered_submissions (k : Kernel) (steps : List Submission) :
    offered (k.submissions steps) = [] := by
  have step : ∀ s : Submission, offered (k.submission s.code s.reaction) = [] := by
    intro s
    rw [submission, offered_append]
    cases s.reaction.subject? <;> rfl
  induction steps with
  | nil => rfl
  | cons s rest ih =>
    rw [submissions, List.flatMap_cons, offered_append, step, List.nil_append]
    exact ih

theorem Preparation.Of.offered_log {settings : StartPlan} {k : Kernel} {x : Preparation}
    (of : x.Of settings k) : offered (x.log k) = [] := by
  rw [log, offered_append, k.offered_submissions, List.append_nil]
  cases communicator : settings.language.communicator with
  | none =>
    rw [of.unsearched communicator]
    rfl
  | some file => exact (of.searched file communicator).notices

namespace Kernel

variable {settings : StartPlan} {log : List (Exchange Host)} {result : Except Error Kernel}

/-- The kernel for a target that was launched. -/
def fresh (settings : StartPlan) (thread : ThreadId) (supported : Bool) : Kernel :=
  ofSession settings ⟨thread, RunOptions.forCells settings.language.name settings.timeout, none⟩
    supported

/-- The target is launched, and prepared if that succeeds. -/
theorem start_prepares (run : (start settings).run.Gives log result) :
    (∃ e, log = [⟨Host.Request.debugger (.launch settings.launch), Except.error e⟩] ∧
        result = .error e) ∨
      ∃ thread supported preparing prepared k', log =
          ⟨Host.Request.debugger (.launch settings.launch), Except.ok thread⟩ ::
            ⟨Host.Request.debugger .canComplete, supported⟩ :: preparing ∧
        ((prepare settings.identity).run.run (fresh settings thread supported)).Gives preparing
          (prepared, k') ∧ result = prepared.map fun _ => k' := by
  rw [start_eq] at run
  obtain ⟨launched, _, rfl, rest⟩ := run.of_ask
  cases launched with
  | error e =>
    obtain ⟨rfl, rfl⟩ := rest.of_done
    exact .inl ⟨e, rfl, rfl⟩
  | ok thread =>
    obtain ⟨supported, _, rfl, asked⟩ := rest.of_ask
    obtain ⟨preparing, _, ⟨prepared, k'⟩, rfl, prepares, ends⟩ := asked.of_bind
    refine .inr ⟨thread, supported, preparing, prepared, k', ?_, prepares, ?_⟩
    all_goals
      cases prepared with
      | error e =>
        obtain ⟨rfl, rfl⟩ := ends.of_done
        simp [Except.map]
      | ok _ =>
        obtain ⟨rfl, rfl⟩ := ends.of_done
        simp [Except.map]

/-- A kernel starts exactly when its target can be used. Nothing is broadcast meanwhile. If the
target cannot be launched, nothing else is asked for. Otherwise the file of the communication is
searched for, and the target is given the file, the declaration and the probe, in this order and up
to the first that fails; where there is no communication it is given the probe alone. The kernel
starts if all of them were given and the probe told the width. Then completion is off, and for the
rest of its life the kernel knows the width, so it does not skip a message for want of it, unless
the debugger itself has answered with that error. -/
theorem start_succeeds_iff (known : settings.language.Known)
    (run : (start settings).run.Gives log result) :
    offered log = [] ∧
    ((∃ e, log = [⟨Host.Request.debugger (.launch settings.launch), Except.error e⟩] ∧
        result = .error e) ∨
      ∃ thread supported, ∃ x : Preparation,
        let k := fresh settings thread supported
        log = ⟨Host.Request.debugger (.launch settings.launch), Except.ok thread⟩ ::
          ⟨Host.Request.debugger .canComplete, supported⟩ :: x.log k ∧
        x.Of settings k ∧
        x.steps.map Submission.code <+: x.planned settings k ∧
        (∀ step ∈ x.steps.dropLast, step.reaction.succeeded = true) ∧
        (∀ started, result = .ok started ↔ ∃ width, x.Usable settings k width ∧
          started = { k with session := k.session.fixWidth width }) ∧
        ∀ started, result = .ok started → started.completion.enabled = false ∧
          ∃ width, x.Usable settings k width ∧ ∀ made later, Calls started made later →
            later.session.probedWidth = .ok width ∧
            ∀ payload, PassesOn .widthNotProbed (QueuedMessage.read later.session payload)) := by
  rcases start_prepares run with ⟨e, rfl, rfl⟩ | ⟨thread, supported, preparing, prepared, k', rfl,
    prepares, rfl⟩
  · exact ⟨rfl, .inl ⟨e, rfl, rfl⟩⟩
  · obtain ⟨x, rfl, of, ends⟩ := prepare_gives known rfl prepares
    refine ⟨of.offered_log, .inr ⟨thread, supported, x, rfl, of, of.submitted.isPrefix,
      of.submitted.unbroken, ?_⟩⟩
    rcases ends with ⟨width, rfl, rfl, usable⟩ | ⟨⟨e, rfl⟩, unusable⟩
    · refine ⟨fun started => ⟨?_, ?_⟩, ?_⟩
      · rintro ⟨⟩
        exact ⟨width, usable, rfl⟩
      · rintro ⟨width', usable', rfl⟩
        rw [usable'.width_unique usable]
        rfl
      · rintro started ⟨⟩
        refine ⟨rfl, width, usable, fun made later calls => ?_⟩
        have probed : later.session.probedWidth = .ok width := by
          rw [calls.since.session]
          rfl
        exact ⟨probed, QueuedMessage.passesOn_read probed⟩
    · refine ⟨fun started => ⟨?_, ?_⟩, ?_⟩
      · rintro ⟨⟩
      · rintro ⟨width, usable, -⟩
        exact absurd usable (unusable width)
      · rintro started ⟨⟩

/-- In the plan for Swift the target is given three pieces of code, and it has 64 bits. -/
theorem start_succeeds_iff_swift :
    ∃ log, (start .withLibrary).run.Gives log (.ok .constant) ∧ (codes log).length = 3 ∧
      constant.completion.enabled = false ∧ constant.session.probedWidth = .ok .bits64 ∧
      ∀ payload, PassesOn .widthNotProbed (QueuedMessage.read constant.session payload) := by
  have facts : ((start .withLibrary).run.play Host.constant).2.isOk = true ∧
      (codes ((start .withLibrary).run.play Host.constant).1).length = 3 ∧
      constant.session.probedWidth = .ok .bits64 := by
    decide +kernel
  obtain ⟨succeeds, submits, width⟩ := facts
  have run := Program.gives_play Host.constant (start .withLibrary).run
  have result : ((start .withLibrary).run.play Host.constant).2 = .ok .constant := by
    unfold constant
    cases result : ((start .withLibrary).run.play Host.constant).2 with
    | error e =>
      rw [result] at succeeds
      cases succeeds
    | ok k => rfl
  rw [result] at run
  obtain ⟨-, ⟨e, -, failed⟩ | ⟨thread, supported, x, -, -, -, -, -, after⟩⟩ :=
    start_succeeds_iff (.inl rfl) run
  · cases failed
  · obtain ⟨off, _, _, life⟩ := after _ rfl
    exact ⟨_, run, submits, off, width, (life [] _ .none).2⟩

end Kernel

end NotebookKernel
