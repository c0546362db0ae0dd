import NotebookKernel.Kernel
import NotebookKernel.Proofs.Cell.Treatments
import NotebookKernel.Proofs.Cell.Requests
import NotebookKernel.Proofs.Json.OneLine

/-!
What the start of a kernel leaves.

The debugger is asked once whether it can complete code. The snippets of the start are expanded as
cells are, so one of them could ask for completion; those of a quiet language do not, and Swift is
one. Its declaration has the identity of the session in it, as string literals, which cannot begin a
line.
-/

namespace NotebookKernel

/-- The code with which the target is prepared. -/
def StartPlan.snippets (settings : StartPlan) : List String :=
  match settings.language.communicator with
  | none => []
  | some file =>
    ["%include \"" ++ file ++ "\"", settings.language.declareSession settings.identity]

/-- No line of that code asks for completion. -/
def StartPlan.Quiet (settings : StartPlan) : Prop :=
  ∀ snippet ∈ settings.snippets, ∀ line ∈ Text.lines snippet.toList,
    ¬ Directive.AsksCompletion line

/-! ## Swift is quiet -/

/-- A line whose first visible character is no percent sign asks for nothing. -/
theorem Directive.not_asksCompletion_of_head {blanks rest : List Char} {c : Char}
    (blank : ∀ b ∈ blanks, Text.isBlank b = true) (visible : Text.isBlank c = false)
    (other : c ≠ '%') : ¬ AsksCompletion (blanks ++ c :: rest) := by
  rintro ⟨front, back, front_blank, -, same⟩
  have first := congrArg (List.dropWhile Text.isBlank) same
  rw [List.dropWhile_append_of_pos blank, List.dropWhile_cons_of_neg (by simp [visible]),
    completionMark_eq, dropWhile_blanks front_blank] at first
  exact other (List.cons.inj first).1

/-- A text that begins with a whole line has its lines and those of the rest. -/
theorem Text.lines_append_line {line lead rest : String} (ends : lead = line ++ "\n")
    (oneLine : '\n' ∉ line.toList) :
    lines (lead ++ rest).toList = line.toList :: lines rest.toList := by
  have parts : (lead ++ rest).toList = line.toList ++ '\n' :: rest.toList := by
    rw [ends, String.toList_append, String.toList_append, List.append_assoc]
    rfl
  rw [parts, lines_append_lineFeed, lines_of_not_mem oneLine, List.singleton_append]

namespace TargetLanguage

variable (identity : NotebookIdentity)

theorem toList_literal (text : String) : (literal text).toList = Json.quoted text.toList :=
  String.toList_ofList

/-- The line of Swift's declaration that has the identity of the session. -/
def identityLine : String :=
  "            id: " ++ (literal identity.id ++ (", key: " ++ (literal identity.key ++
    (", username: " ++ (literal identity.username ++ "))")))))

theorem lineFeed_not_mem_identityLine : '\n' ∉ (identityLine identity).toList := by
  unfold identityLine
  repeat rw [String.toList_append]
  simp only [toList_literal, List.mem_append, Json.lineFeed_not_mem_quoted, false_or]
  decide

theorem identityLine_not_asksCompletion :
    ¬ Directive.AsksCompletion (identityLine identity).toList := by
  have front : "            id: ".toList = "            ".toList ++ 'i' :: "d: ".toList := by
    decide
  have blanks : "            ".toList.all Text.isBlank = true := by decide
  unfold identityLine
  rw [String.toList_append, front, List.append_assoc, List.cons_append]
  exact Directive.not_asksCompletion_of_head (List.all_eq_true.mp blanks) (by decide) (by decide)

theorem lines_declareSession_swift :
    Text.lines (swift.declareSession identity).toList =
      ["enum JupyterKernel \x7b".toList, "    static var communicator = KernelCommunicator(".toList,
        "        jupyterSession: KernelCommunicator.JupyterSession(".toList,
        (identityLine identity).toList, "\x7d".toList] := by
  have parts : swift.declareSession identity =
      "enum JupyterKernel \x7b\n" ++ ("    static var communicator = KernelCommunicator(\n" ++
        ("        jupyterSession: KernelCommunicator.JupyterSession(\n" ++
          (identityLine identity ++ "\n" ++ "\x7d"))) := by
    unfold swift identityLine
    dsimp only
    simp only [String.append_assoc]
    rfl
  have first : "enum JupyterKernel \x7b\n" = "enum JupyterKernel \x7b" ++ "\n" := by
    decide
  have second : "    static var communicator = KernelCommunicator(\n" =
      "    static var communicator = KernelCommunicator(" ++ "\n" := by
    decide
  have third : "        jupyterSession: KernelCommunicator.JupyterSession(\n" =
      "        jupyterSession: KernelCommunicator.JupyterSession(" ++ "\n" := by
    decide
  rw [parts, Text.lines_append_line first (by decide), Text.lines_append_line second (by decide),
    Text.lines_append_line third (by decide),
    Text.lines_append_line rfl (lineFeed_not_mem_identityLine identity),
    Text.lines_of_not_mem (by decide)]

end TargetLanguage

/-- The texts in the declaration of a session do not begin its lines. -/
theorem StartPlan.quiet_swift {settings : StartPlan} (swift : settings.language = .swift) :
    settings.Quiet := by
  have included : ∀ line ∈ Text.lines "%include \"KernelCommunicator.swift\"".toList,
      ¬ Directive.AsksCompletion line := by
    rw [Text.lines_of_not_mem (by decide), List.forall_mem_singleton,
      ← Directive.ofLine_eq_enableCompletion_iff]
    decide
  have declared : ∀ line ∈ Text.lines (TargetLanguage.swift.declareSession settings.identity).toList,
      ¬ Directive.AsksCompletion line := by
    rw [TargetLanguage.lines_declareSession_swift]
    have identity := TargetLanguage.identityLine_not_asksCompletion settings.identity
    simp only [List.forall_mem_cons, ← Directive.ofLine_eq_enableCompletion_iff] at identity ⊢
    refine ⟨by decide, by decide, by decide, identity, by decide⟩
  unfold StartPlan.Quiet StartPlan.snippets
  rw [swift]
  exact List.forall_mem_cons.mpr ⟨included, List.forall_mem_singleton.mpr declared⟩

/-! ## The start -/

/-- The answer to the question whether the debugger can complete code. -/
def Exchange.support? : Exchange Host → Option Bool
  | ⟨.debugger .canComplete, supported⟩ => some supported
  | _ => none

theorem Host.Request.support?_eq_none {exchange : Exchange Host}
    (other : exchange.request ≠ .debugger .canComplete) : exchange.support? = none := by
  unfold Exchange.support?
  split
  · exact absurd rfl other
  · rfl

namespace Kernel

variable {k k' : Kernel} {log : List (Exchange Host)}

/-- An action that only looks at the kernel leaves it as it is. -/
theorem reading_gives {α : Type} {action : Kernel → Action α} {result : Except Error α}
    (run : ((KernelAction.reading action).run.run k).Gives log (result, k')) :
    k' = k ∧ (action k).run.Gives log result := by
  obtain ⟨_, _, _, rfl, acted, done⟩ := Program.Gives.of_bind run
  obtain ⟨rfl, same⟩ := done.of_done
  cases same
  rw [List.append_nil]
  exact ⟨rfl, acted⟩

/-- Expansion as a step that cannot end in an error of the kernel. -/
theorem lift_expand_gives {source : String} {result : Except Error (Except ExpansionError String)}
    (run : ((liftM (expand source) : KernelAction (Except ExpansionError String)).run.run k).Gives
      log (result, k')) : ∃ expanded, result = .ok expanded ∧
        (expand source k).Gives log (expanded, k') := by
  change ((expand source k).bind fun ending => .done (Except.ok ending.1, ending.2)).Gives _ _ at run
  obtain ⟨_, _, ⟨expanded, _⟩, rfl, expands, done⟩ := run.of_bind
  obtain ⟨rfl, same⟩ := done.of_done
  cases same
  rw [List.append_nil]
  exact ⟨expanded, rfl, expands⟩

/-- Lines that do not ask for completion leave it as it is. -/
theorem expand_quiet {source : String} {expanded : Except ExpansionError String}
    (run : (expand source k).Gives log (expanded, k'))
    (quiet : ∀ line ∈ Text.lines source.toList, ¬ Directive.AsksCompletion line) : k' = k := by
  obtain ⟨treatments, -, covered, -, -, leaves, same⟩ := expand_treats run
  rw [same, leaves.eq_of_quiet fun t mem => quiet _ (covered.line_mem t mem)]

/-- A snippet that does not ask for completion leaves the kernel as it is. -/
theorem runSnippet_kernel {complaint source : String}
    (run : ((runSnippet complaint source).run.run k).Gives log (.ok (), k'))
    (quiet : ∀ line ∈ Text.lines source.toList, ¬ Directive.AsksCompletion line) : k' = k := by
  obtain ⟨_, _, result, last, rfl, submitted, checked⟩ := Layers.gives_bind_ok run
  obtain rfl : k' = last := by
    cases failure : result.failureText <;> rw [failure] at checked
    · cases checked.of_done.2
      rfl
    · cases checked.of_done.2
  obtain ⟨_, _, expanded, middle, rfl, expands, executed⟩ := Layers.gives_bind_ok submitted
  obtain ⟨_, same, expands⟩ := lift_expand_gives expands
  cases same
  obtain rfl := expand_quiet expands quiet
  cases expanded with
  | error e =>
    cases executed.of_done.2
    rfl
  | ok code => exact (reading_gives executed).1

/-- The start of a quiet language brings the communication into the target, and changes nothing of
the kernel. -/
theorem startCommunicator_kernel {settings : StartPlan} (quiet : settings.Quiet)
    (language : k.language = settings.language)
    (run : ((startCommunicator settings.identity).run.run k).Gives log (.ok (), k')) : k' = k := by
  obtain ⟨_, _, _, _, rfl, got, run⟩ := Layers.gives_bind_ok run
  cases got.of_done.2
  unfold StartPlan.Quiet StartPlan.snippets at quiet
  rw [language] at run
  cases file : settings.language.communicator with
  | none =>
    rw [file] at run
    cases run.of_done.2
    rfl
  | some file' =>
    rw [file] at run quiet
    simp only [List.forall_mem_cons] at quiet
    obtain ⟨_, _, _, _, rfl, included, declared⟩ := Layers.gives_bind_ok run
    obtain rfl := runSnippet_kernel included quiet.1
    exact runSnippet_kernel declared quiet.2.1

/-- The start may ask for what expands code and for what submits it. -/
def StartAsks (r : Host.Request) : Prop :=
  r.Expands ∨ r.Submits

theorem reading_asks {α : Type} {action : Kernel → Action α} {allowed : Host.Request → Prop}
    (asks : (action k).run.Asks allowed) :
    ((KernelAction.reading action).run.run k).Asks allowed :=
  Program.Asks.bind asks fun _ => True.intro

theorem runSnippet_asks (complaint source : String) (k : Kernel) :
    ((runSnippet complaint source).run.run k).Asks StartAsks := by
  unfold runSnippet expandAndSubmit
  refine Layers.asks_bind (Layers.asks_bind ?_ fun expanded k => ?_) fun result k => ?_
  · exact ((expand_asks source k).mono fun _ => .inl).bind fun _ => True.intro
  · cases expanded with
    | error e => exact True.intro
    | ok code => exact reading_asks ((execute_asks k code).mono fun _ => .inr)
  · cases result.failureText <;> exact True.intro

theorem startCommunicator_asks (identity : NotebookIdentity) (k : Kernel) :
    ((startCommunicator identity).run.run k).Asks StartAsks := by
  unfold startCommunicator
  refine Layers.asks_bind True.intro fun l k => ?_
  cases l.language.communicator with
  | none => exact True.intro
  | some file =>
    dsimp only
    generalize "%include \"" ++ file ++ "\"" = included
    generalize "Error initing communicator" = complaint
    generalize "Error declaring session" = complaint'
    exact Layers.asks_bind (runSnippet_asks complaint included k) fun _ k => runSnippet_asks _ _ k

theorem probeWidth_asks (k : Kernel) : (probeWidth k).run.Asks StartAsks := by
  unfold probeWidth
  refine Program.Asks.bindExcept ((execute_asks k _).mono fun _ => .inr) fun result => ?_
  cases result with
  | gave value =>
    generalize read : widthOfDescription k.language.widthProbe value.description = width
    dsimp only
    rw [read]
    exact liftExcept_asks
  | finished | notExpanded _ | failed _ => exact True.intro

/-- What is asked to prepare a target: nothing about completion. -/
theorem prepare_asks (identity : NotebookIdentity) (k : Kernel) :
    ((prepare identity).run.run k).Asks StartAsks := by
  unfold prepare
  refine Layers.asks_bind (startCommunicator_asks identity k) fun _ k => ?_
  exact Layers.asks_bind (reading_asks (probeWidth_asks k)) fun _ _ => True.intro

/-- A start step by step. -/
theorem start_eq (settings : StartPlan) :
    (start settings).run = .ask (.debugger (.launch settings.launch)) fun
      | .error e => .done (.error e)
      | .ok thread => .ask (.debugger .canComplete) fun supported =>
        ((prepare settings.identity).run.run (ofSession settings
          ⟨thread, RunOptions.forCells settings.language.name settings.timeout, none⟩
          supported)).bind fun
            | (.error e, _) => .done (.error e)
            | (.ok _, k) => .done (.ok k) := by
  change Program.ask _ _ = _
  congr 1
  funext thread
  cases thread with
  | error e => rfl
  | ok thread =>
    change Program.ask _ _ = _
    congr 1
    funext supported
    change Program.bind (Program.bind ((prepare settings.identity).run.run _) _) _ = _
    rw [Program.bind_assoc]
    congr 1
    funext ending
    obtain ⟨result, k⟩ := ending
    cases result <;> rfl

/-- Preparing changes no more of the kernel than what it knows of its target. -/
theorem prepare_kernel {settings : StartPlan} (quiet : settings.Quiet)
    (language : k.language = settings.language)
    (run : ((prepare settings.identity).run.run k).Gives log (.ok (), k')) :
    k'.completion = k.completion ∧ k'.expander = k.expander ∧
      k'.session.options = k.session.options := by
  obtain ⟨_, _, _, started, rfl, starts, rest⟩ := Layers.gives_bind_ok run
  obtain rfl := startCommunicator_kernel quiet language starts
  obtain ⟨_, _, width, probed, rfl, probes, fixes⟩ := Layers.gives_bind_ok rest
  obtain ⟨rfl, -⟩ := reading_gives probes
  obtain ⟨-, same⟩ := fixes.of_done
  cases same
  refine ⟨rfl, rfl, ?_⟩
  change (Session.fixWidth _ width).options = _
  unfold Session.fixWidth
  split <;> rfl

/-- What a start leaves: the debugger was asked once about completion, which is off. -/
theorem start_gives {settings : StartPlan} (quiet : settings.Quiet)
    (run : (start settings).run.Gives log (.ok k)) :
    ∃ supported, log.filterMap Exchange.support? = [supported] ∧
      k.completion = .ofSupport supported ∧
      k.expander = ⟨settings.language, settings.includePath⟩ ∧
      k.session.options.language = settings.language.name := by
  rw [start_eq] at run
  obtain ⟨thread, _, rfl, launched⟩ := run.of_ask
  cases thread with
  | error e => cases launched.of_done.2
  | ok thread =>
    obtain ⟨supported, _, rfl, asked⟩ := launched.of_ask
    refine ⟨supported, ?_⟩
    obtain ⟨first, second, ⟨result, prepared⟩, rfl, prepares, finishes⟩ := asked.of_bind
    have once : first.filterMap Exchange.support? = [] := by
      rw [List.filterMap_eq_nil_iff]
      intro exchange mem
      refine Host.Request.support?_eq_none fun same => ?_
      have asks := prepares.requests (prepare_asks _ _) exchange mem
      rw [same] at asks
      exact asks.elim id id
    cases result with
    | error e => cases finishes.of_done.2
    | ok _ =>
      obtain ⟨rfl, same⟩ := finishes.of_done
      cases same
      refine ⟨?_, ?_⟩
      · change supported :: (first ++ []).filterMap Exchange.support? = [supported]
        rw [List.append_nil, once]
      obtain ⟨completion, expander, options⟩ := prepare_kernel quiet rfl prepares
      exact ⟨completion, expander, congrArg RunOptions.language options⟩

end Kernel

end NotebookKernel
