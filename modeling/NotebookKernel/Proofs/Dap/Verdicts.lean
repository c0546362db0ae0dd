import NotebookKernel.Proofs.Dap.Buffers
import NotebookKernel.Proofs.Text.Trim

/-!
What a response to an evaluation is taken for.

A debugger answers an evaluation with a success or a failure, an error text in one of three places,
and a body of which every field may be missing or mistyped. The kernel makes one of three outcomes
of it: the code failed, it gave a value, or it is finished and there is nothing to show.
`Client.Verdict` says which of them, in terms of the response alone. `Client.execute_verdict` says
that executed code comes to it, with a handle that is good until the next evaluation begins.
-/

namespace NotebookKernel.Dap

/-! ## Error texts -/

/-- The error text of a response: the error's own format, else the message, else a text made of the
command. -/
inductive ErrorText (r : Response) : String → Prop
  | format {text : String} : ((r.body.get "error").get "format").text? = some text →
    ErrorText r text
  | message {text : String} : ((r.body.get "error").get "format").text? = none →
    r.message = some text → ErrorText r text
  | command : ((r.body.get "error").get "format").text? = none → r.message = none →
    ErrorText r (r.command ++ " failed")

theorem errorText_iff {r : Response} {text : String} :
    ErrorText r text ↔ r.failureText = text := by
  unfold Response.failureText
  constructor
  · intro stated
    cases stated with
    | format found => rw [found]
    | message missing found => rw [missing, found, Option.getD_some]
    | command missing missing' => rw [missing, missing', Option.getD_none]
  · intro same
    cases found : ((r.body.get "error").get "format").text? with
    | some format =>
      rw [found] at same
      cases same
      exact .format found
    | none =>
      rw [found] at same
      cases found' : r.message with
      | some message =>
        rw [found', Option.getD_some] at same
        cases same
        exact .message found found'
      | none =>
        rw [found', Option.getD_none] at same
        cases same
        exact .command found found'

/-- What an error text says once the white space at its ends and one leading `error:` are gone. -/
inductive Says (text : List Char) : List Char → Prop
  | marked {rest core : List Char} : Text.Trimmed text ("error:".toList ++ rest) →
    Text.Trimmed rest core → Says text core
  | plain {core : List Char} : Text.Trimmed text core → (∀ rest, core ≠ "error:".toList ++ rest) →
    Says text core

theorem says_iff {text core : List Char} :
    Says text core ↔
      Text.trim ((Text.dropLead? "error:".toList (Text.trim text)).getD (Text.trim text)) =
        core := by
  constructor
  · intro stated
    cases stated with
    | marked outer inner =>
      rw [Text.trim_eq_iff.mpr outer, Text.dropLead?_append, Option.getD_some]
      exact Text.trim_eq_iff.mpr inner
    | plain outer bare =>
      have unmarked : Text.dropLead? "error:".toList core = none :=
        Option.eq_none_iff_forall_ne_some.mpr fun rest found =>
          bare rest (Text.dropLead?_eq_some_iff.mp found)
      rw [Text.trim_eq_iff.mpr outer, unmarked, Option.getD_none]
      exact Text.trim_eq_iff.mpr ⟨⟨[], [], by simp⟩, outer.first, outer.last⟩
  · intro same
    have outer : Text.Trimmed text (Text.trim text) := Text.trim_eq_iff.mp rfl
    cases lead : Text.dropLead? "error:".toList (Text.trim text) with
    | some rest =>
      rw [lead, Option.getD_some] at same
      rw [Text.dropLead?_eq_some_iff.mp lead] at outer
      exact .marked outer (Text.trim_eq_iff.mp same)
    | none =>
      have again : Text.trim (Text.trim text) = Text.trim text :=
        Text.trim_eq_iff.mpr ⟨⟨[], [], by simp⟩, outer.first, outer.last⟩
      rw [lead, Option.getD_none, again] at same
      rw [same] at outer lead
      refine .plain outer fun rest marked => ?_
      rw [marked, Text.dropLead?_append] at lead
      cases lead

namespace Client

/-! ## Verdicts -/

/-- A text that debuggers report for a statement without a value, in capitals or not. -/
def SaysNothing (core : List Char) : Prop :=
  ∃ known ∈ nothingTexts, core.map Char.toLower = known.toList.map Char.toLower

theorem saysNothing_iff {r : Response} :
    saysNothing r = true ↔ ∃ text core, ErrorText r text ∧ Says text.toList core ∧
      SaysNothing core := by
  simp only [saysNothing, List.any_eq_true, decide_eq_true_eq, errorText_iff, says_iff]
  constructor
  · intro ⟨known, mem, same⟩
    exact ⟨_, _, rfl, rfl, known, mem, same⟩
  · rintro ⟨_, _, rfl, rfl, known, mem, same⟩
    exact ⟨known, mem, same⟩

/-- The response reports a failure that is one. -/
def ReportsFailure (r : Response) : Prop :=
  r.success = false ∧ ∃ text core, ErrorText r text ∧ Says text.toList core ∧ ¬ SaysNothing core

/-- The response tells something of a value. -/
def ReportsValue (r : Response) : Prop :=
  r.success = true ∧
    ((∃ text, (r.body.get "result").text? = some text ∧ text ≠ "") ∨
      (∃ text, (r.body.get "type").text? = some text ∧ text ≠ "") ∨
        ∃ n, (r.body.get "variablesReference").int64? = some n ∧ n ≠ 0)

theorem reportsFailure_iff {r : Response} :
    ReportsFailure r ↔ r.success = false ∧ saysNothing r = false := by
  refine and_congr_right fun _ => ?_
  rw [← Bool.not_eq_true, saysNothing_iff]
  constructor
  · rintro ⟨text, core, errs, stated, some_⟩ ⟨text', core', errs', stated', nothing⟩
    rw [errorText_iff] at errs errs'
    rw [← errs, says_iff] at stated
    rw [← errs', says_iff] at stated'
    rw [← stated] at some_
    rw [← stated'] at nothing
    exact some_ nothing
  · intro some_
    have errs : ErrorText r r.failureText := errorText_iff.mpr rfl
    refine ⟨_, _, errs, says_iff.mpr rfl, fun nothing => some_ ⟨_, _, errs, ?_, nothing⟩⟩
    exact says_iff.mpr rfl

theorem getD_ne_iff {α : Type} {o : Option α} {preset : α} :
    o.getD preset ≠ preset ↔ ∃ a, o = some a ∧ a ≠ preset := by
  cases o <;> simp

theorem reportsValue_iff {r : Response} :
    ReportsValue r ↔ r.success = true ∧ (KnownValue.ofResult r.body).isVoid = false := by
  refine and_congr_right fun _ => ?_
  have type : (r.body.get "type").text?.filter (· ≠ "") ≠ none ↔
      ∃ text, (r.body.get "type").text? = some text ∧ text ≠ "" := by
    rw [Option.ne_none_iff_exists']
    simp [Option.filter_eq_some_iff]
  rw [← getD_ne_iff, ← type, ← getD_ne_iff]
  simp only [KnownValue.isVoid, Bool.and_eq_false_iff, decide_eq_false_iff_not,
    Option.isNone_eq_false_iff, Option.isSome_iff_ne_none, or_assoc]
  exact Iff.rfl

/-- A response reports a failure, a value or neither, and the client takes it for that. -/
theorem reports_of_meaning (r : Response) :
    match meaningOf r with
    | .valueless => ¬ ReportsFailure r ∧ ¬ ReportsValue r
    | .value entry => (¬ ReportsFailure r ∧ ReportsValue r) ∧ entry = .ofResult r.body
    | .failed entry => (ReportsFailure r ∧ ¬ ReportsValue r) ∧ entry = .ofError r.failureText := by
  simp only [meaningOf, reportsFailure_iff, reportsValue_iff]
  cases r.success
  · cases saysNothing r <;> simp
  · cases (KnownValue.ofResult r.body).isVoid <;> simp

/-- The outcome that a response stands for. -/
structure Verdict (r : Response) (outcome : Outcome) : Prop where
  failed_iff : (∃ shown, outcome = .failed shown) ↔ ReportsFailure r
  failed : ∀ shown, outcome = .failed shown → ErrorText r shown.description
  gave_iff : (∃ shown, outcome = .gave shown) ↔ ReportsValue r
  gave : ∀ shown, outcome = .gave shown →
    shown.description = (r.body.get "result").text?.getD "" ∧
      ∀ text, shown.typeName = some text ↔ (r.body.get "type").text? = some text ∧ text ≠ ""
  finished_iff : outcome = .finished ↔ ¬ ReportsFailure r ∧ ¬ ReportsValue r

theorem verdict_finished {r : Response} (reports : ¬ ReportsFailure r ∧ ¬ ReportsValue r) :
    Verdict r .finished where
  failed_iff := by simp [reports.1]
  failed := by simp
  gave_iff := by simp [reports.2]
  gave := by simp
  finished_iff := by simp [reports]

theorem verdict_gave {r : Response} (reports : ¬ ReportsFailure r ∧ ReportsValue r) (h : Handle) :
    Verdict r (.gave ⟨h, (KnownValue.ofResult r.body).description,
      (KnownValue.ofResult r.body).typeName⟩) where
  failed_iff := by simp [reports.1]
  failed := by simp
  gave_iff := by simp [reports.2]
  gave := by
    rintro _ ⟨⟩
    exact ⟨rfl, fun text => by simp [KnownValue.ofResult, KnownValue.ofJson]⟩
  finished_iff := by simp [reports]

theorem verdict_failed {r : Response} (reports : ReportsFailure r ∧ ¬ ReportsValue r) (h : Handle) :
    Verdict r (.failed ⟨h, r.failureText, none⟩) where
  failed_iff := by simp [reports.1]
  failed := by
    rintro _ ⟨⟩
    exact errorText_iff.mpr rfl
  gave_iff := by simp [reports.2]
  gave := by simp
  finished_iff := by simp [reports]

/-- The handle is of use until the next evaluation begins: whatever is done until then, it finds a
value with the description, and from then on it is refused. -/
def LastsFrom (d : Client) (shown : ShownValue) : Prop :=
  ∀ deeds e, Runs d deeds e →
    ((∀ deed ∈ deeds, deed.evaluates = false) →
      ∃ entry, Finds e shown.handle entry ∧ entry.description = shown.description) ∧
    ((∃ deed ∈ deeds, deed.evaluates = true) → Refuses e shown.handle)

/-- The newest handle lasts until the next evaluation. -/
theorem lastsFrom_remembering (c : Client) (entry : KnownValue) (typeName : Option String) :
    LastsFrom (c.remembering entry) ⟨(c.values.insert entry).1, entry.description, typeName⟩ := by
  intro deeds e run
  have found : (c.remembering entry).values.find (c.values.insert entry).1 = .ok entry :=
    KnownValues.find_slot (i := 0) rfl
  refine ⟨fun quiet => ⟨entry, .of_find (run.find quiet found), rfl⟩, fun ⟨deed, mem, again⟩ => ?_⟩
  have number : (c.values.insert entry).1.generation = (c.remembering entry).values.generation :=
    rfl
  have more : 0 < deeds.countP Deed.evaluates := List.countP_pos_iff.mpr ⟨deed, mem, again⟩
  apply Refuses.of_find
  apply KnownValues.find_stale
  rw [number, run.generation]
  omega

variable {others : (r : Host.Request) → Host.Answer r} {c d : Client} {r : Response}

theorem served_describe {h : Handle} {entry : KnownValue} (found : d.values.find h = .ok entry) :
    served others (Session.describe h).run d =
      .done (.ok ⟨entry.description, entry.typeName, entry.error⟩, d) := by
  change served others (Act.debugger (.describe h)) d = _
  rw [served_debugger, (Finds.of_find found).described]

/-- What the kernel makes of an evaluation is the verdict on its response. -/
theorem served_classify {evaluation : Evaluation} (understood : Understood c r evaluation d) :
    ∃ outcome, served others (Kernel.classify evaluation).run d = .done (.ok outcome, d) ∧
      Verdict r outcome ∧
        ∀ shown, outcome = .gave shown ∨ outcome = .failed shown → LastsFrom d shown := by
  have newest : ∀ entry, (c.remembering entry).values.find (c.values.insert entry).1 = .ok entry :=
    fun entry => KnownValues.find_slot (i := 0) rfl
  have reports := reports_of_meaning r
  cases understood with
  | valueless meaning =>
    rw [meaning] at reports
    exact ⟨.finished, rfl, verdict_finished reports, by simp⟩
  | @value entry meaning =>
    rw [meaning] at reports
    obtain ⟨reports, rfl⟩ := reports
    refine ⟨_, served_next (served_describe (newest _)), verdict_gave reports _, ?_⟩
    rintro _ (⟨⟨⟩⟩ | ⟨⟨⟩⟩)
    exact lastsFrom_remembering c _ _
  | @failed entry meaning =>
    rw [meaning] at reports
    obtain ⟨reports, rfl⟩ := reports
    refine ⟨_, served_next (served_describe (newest _)), verdict_failed reports _, ?_⟩
    rintro _ (⟨⟨⟩⟩ | ⟨⟨⟩⟩)
    exact lastsFrom_remembering c (.ofError r.failureText) none

/-! ## Executed code -/

section Executed

variable {code : String} {options : RunOptions} {thread : ThreadId} {frames : Response}
  {seq seq' : Nat}

/-- What is heard when the debugger tells the frames and then answers the evaluation. -/
def evaluationLog (code : String) (options : RunOptions) (thread : ThreadId) (seq : Nat)
    (frames : Response) (seq' : Nat) (r : Response) : List (Exchange Link) :=
  asked "stackTrace" (frameArguments thread) seq (some frames) ++
    asked "evaluate" (evaluateArguments code options (frameIn frames.body)) seq' (some r)

theorem linked_heard {α : Type} {act : LinkAct (Except Error α)} {result : Except Error α}
    {log : List (Exchange Link)} (run : act.Gives log result) :
    ((linked act).run.run c).Gives log (result, c) :=
  Program.gives_convert_iff.mpr ⟨result, run, rfl⟩

/-- An evaluation whose requests are answered comes to what its response stands for. -/
theorem evaluate_heard (launched : c.mainThread = some thread) (success : frames.success = true)
    {evaluation : Evaluation} (understood : Understood c.evaluating r evaluation d) :
    ((evaluate code options).run.run c).Gives
      (evaluationLog code options thread seq frames seq' r) (.ok evaluation, d) := by
  have checked : (liftExcept c.evaluating.launchedThread : ClientAction ThreadId).run.run
      c.evaluating = .done (.ok thread, c.evaluating) := by
    have found : c.evaluating.launchedThread = .ok thread := by
      unfold launchedThread evaluating
      rw [launched]
    rw [found]
    rfl
  have located : ((linked (innermostFrame thread)).run.run c.evaluating).Gives
      (asked "stackTrace" (frameArguments thread) seq (some frames))
      (.ok (frameIn frames.body), c.evaluating) := by
    have told : bodyOf "stackTrace" frames = .ok frames.body := if_pos success
    refine linked_heard (innermostFrame_gives_iff.mpr ⟨_, .answered seq frames, ?_⟩)
    change _ = frameIn <$> bodyOf "stackTrace" frames
    rw [told]
    rfl
  have responded : ((linked (request "evaluate"
      (evaluateArguments code options (frameIn frames.body)))).run.run c.evaluating).Gives
      (asked "evaluate" (evaluateArguments code options (frameIn frames.body)) seq' (some r))
      (.ok r, c.evaluating) :=
    linked_heard (Requested.answered seq' r).gives
  unfold evaluate evaluationLog
  rw [Layers.run_next (t := c.evaluating) rfl,
    Layers.run_next (a := c.evaluating) (t := c.evaluating) rfl, Layers.run_next checked,
    ← List.append_nil (asked "evaluate" _ _ _)]
  refine Layers.gives_bind located (Layers.gives_bind responded ?_)
  cases understood with
  | valueless meaning =>
    simp only [meaning]
    exact .done _
  | value meaning =>
    simp only [meaning]
    exact .done _
  | failed meaning =>
    simp only [meaning]
    exact .done _

theorem exists_understood (c : Client) (r : Response) :
    ∃ evaluation d, Understood c r evaluation d := by
  cases meaning : meaningOf r with
  | valueless => exact ⟨_, _, .valueless meaning⟩
  | value entry => exact ⟨_, _, .value meaning⟩
  | failed entry => exact ⟨_, _, .failed meaning⟩

/-- To the connection, an evaluation of the session is one of the client. -/
theorem served_evaluate (session : Session) (code : String) (c : Client) :
    served others (session.evaluate code).run c = (evaluate code session.options).run.run c := by
  change served others (Act.withTargetLock ((Act.host (.setBusy true)).bind fun _ =>
    (Act.debugger (.evaluate code session.options)).bind fun result =>
      (Act.host (.setBusy false)).bind fun _ => .done result)) c = _
  rw [served_withTargetLock, served_bind]
  change served others ((Act.debugger (.evaluate code session.options)).bind _) c = _
  rw [served_bind, served_debugger]
  exact Program.bind_done _

/-- Whatever a debugger answers to an evaluation after it has told the frames, there is one outcome
of the executed code. It is the verdict on the answer, and its handle lasts until the next
evaluation. -/
theorem execute_verdict (others : (r : Host.Request) → Host.Answer r) (k : Kernel) (code : String)
    (launched : c.mainThread = some thread) (success : frames.success = true) (seq seq' : Nat)
    (r : Response) :
    ∃ outcome d, Verdict r outcome ∧
      (∀ shown, outcome = .gave shown ∨ outcome = .failed shown → LastsFrom d shown) ∧
      ∀ result, (served others (k.execute code).run c).Gives
        (evaluationLog (k.located code) k.session.options thread seq frames seq' r) result ↔
          result = (.ok outcome, d) := by
  obtain ⟨evaluation, d, understood⟩ := exists_understood c.evaluating r
  obtain ⟨outcome, classified, verdict, lasts⟩ := served_classify understood
  have whole : (served others (k.execute code).run c).Gives
      (evaluationLog (k.located code) k.session.options thread seq frames seq' r)
      (.ok outcome, d) := by
    rw [← List.append_nil (evaluationLog ..)]
    change (served others (Program.bind (k.session.evaluate (k.located code)).run _) c).Gives _ _
    rw [served_bind, served_evaluate]
    refine (evaluate_heard launched success understood).bind ?_
    change (served others (Kernel.classify evaluation).run d).Gives [] _
    rw [classified]
    exact .done _
  refine ⟨outcome, d, verdict, lasts, fun result => ⟨fun run => whole.unique run, ?_⟩⟩
  rintro rfl
  exact whole

/-- A response with one stack frame. -/
def oneFrame : Response where
  requestSeq := 1
  success := true
  command := "stackTrace"
  message := none
  body := .obj [("stackFrames", .arr [.obj [("id", .int 1000)]])]

/-- A response to code that does not compile. -/
def unresolved : Response where
  requestSeq := 2
  success := false
  command := "evaluate"
  message := some " error: cannot find 'x'\n"
  body := .null

/-- A client with a launched target. -/
def withTarget : Client :=
  ⟨.null, some ⟨1⟩, .empty⟩

/-- The code has failed, and the whole text is shown. -/
theorem execute_verdict_unresolved :
    ∃ shown d, shown.description = " error: cannot find 'x'\n" ∧ LastsFrom d shown ∧
      (served Host.constant (Kernel.execute default "x").run withTarget).Gives
        (evaluationLog (Kernel.located default "x") (default : Kernel).session.options ⟨1⟩ 1
          oneFrame 2 unresolved) (.ok (.failed shown), d) := by
  have launched : withTarget.mainThread = some ⟨1⟩ := rfl
  have success : oneFrame.success = true := rfl
  obtain ⟨outcome, d, verdict, lasts, runs⟩ :=
    execute_verdict Host.constant default "x" launched success 1 2 unresolved
  have reports : ReportsFailure unresolved :=
    reportsFailure_iff.mpr ⟨rfl, by decide +kernel⟩
  obtain ⟨shown, rfl⟩ := verdict.failed_iff.mpr reports
  have text := errorText_iff.mp (verdict.failed shown rfl)
  exact ⟨shown, d, text.symm, lasts shown (.inr rfl), (runs _).mpr rfl⟩

end Executed

end Client

end NotebookKernel.Dap
