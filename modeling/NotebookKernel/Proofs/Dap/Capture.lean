import NotebookKernel.Proofs.Dap.Courses
import NotebookKernel.Proofs.Dap.Outcomes
import NotebookKernel.Proofs.Dap.Responses

/-!
Output is captured before the answer it belongs to.

The reader takes one message after the other, and captures the text of an output event before it
goes on. So what was taken of the output, with what is still captured, is at every moment the text
of the output events that have been received (`Traffic.Reachable.output_captured`), and whoever
fetches a response finds behind it all the output that came before it
(`Traffic.Reachable.captured_before_response`).
-/

namespace NotebookKernel.Dap

/-! ## What a history tells of output -/

/-- The text that a message has the reader capture. -/
def outputText (message : Json) : List Char :=
  match Message.ofJson? message with
  | some (.event e) =>
    if e.name = "output" ∧ (e.body.get "category").text? = some "stdout" then
      ((e.body.get "output").text?.getD "").toList
    else []
  | _ => []

/-- The text of all output events that were received, in order. -/
def outputReceived : List Occurrence → List Char
  | [] => []
  | .received message :: earlier => outputReceived earlier ++ outputText message
  | _ :: earlier => outputReceived earlier

/-- What an exchange takes of the captured output. -/
def textTaken : Exchange Link → List Char
  | ⟨.takeOutput _, text⟩ => text.toList
  | _ => []

/-- All output that was taken, in order. -/
def outputTaken : List Occurrence → List Char
  | [] => []
  | .exchanged _ exchange :: earlier => outputTaken earlier ++ textTaken exchange
  | _ :: earlier => outputTaken earlier

theorem outputReceived_append (later earlier : List Occurrence) :
    outputReceived (later ++ earlier) = outputReceived earlier ++ outputReceived later := by
  induction later with
  | nil => simp [outputReceived]
  | cons o later ih => cases o <;> simp [outputReceived, ih]

theorem outputReceived_prefix {earlier history : List Occurrence} (within : earlier <:+ history) :
    outputReceived earlier <+: outputReceived history := by
  rcases within with ⟨later, rfl⟩
  rw [outputReceived_append]
  exact List.prefix_append _ _

/-! ## What the connection does with output -/

namespace Connection

theorem splitBytes_append (limit : Nat) (text : List Char) :
    (splitBytes limit text).1 ++ (splitBytes limit text).2 = text := by
  induction text generalizing limit with
  | nil => rfl
  | cons c text ih =>
    unfold splitBytes
    split
    · simp [ih]
    · rfl

theorem splitOutput_append (limit : Nat) (text : List Char) :
    (splitOutput limit text).1 ++ (splitOutput limit text).2 = text := by
  have whole := splitBytes_append limit text
  unfold splitOutput
  split
  · next c rest split =>
    rw [split] at whole
    exact whole
  · exact whole

variable {c d : Connection}

theorem fetch?_output {seq : Nat} {response : Option Response}
    (fetched : c.fetch? seq = some (response, d)) : d.output = c.output := by
  unfold fetch? at fetched
  split at fetched
  · cases fetched
    rfl
  · split at fetched
    · cases fetched
    · cases fetched
      rfl

/-- A request takes the beginning of the captured output, if it takes any. -/
theorem answer?_output {r : Link.Request} {answer : Link.Answer r}
    (answered : c.answer? r = some (answer, d)) : textTaken ⟨r, answer⟩ ++ d.output = c.output := by
  cases r with
  | takeOutput limit =>
    cases answered
    simp only [textTaken, String.toList_ofList]
    exact splitOutput_append limit c.output
  | await seq => exact fetch?_output answered
  | awaitInTime seq =>
    unfold answer? at answered
    rw [Option.map_eq_some_iff] at answered
    rcases answered with ⟨⟨response, e⟩, fetched, same⟩
    have output := fetch?_output fetched
    cases response <;> cases same <;> exact output
  | awaitEvent name =>
    unfold answer? at answered
    dsimp only at answered
    split at answered
    · cases answered
      rfl
    · split at answered
      · cases answered
      · cases answered
        rfl
  | write | signal | killServer | log => cases answered
  | allocate | expect | forget | listen | unlisten | unreadOutput | debuggee =>
    cases answered
    rfl

/-- The reader captures the text of a message, and nothing else. -/
theorem deliver_output (c : Connection) (message : Json) :
    (c.deliver message).1.output = c.output ++ outputText message := by
  have kept : ∀ (c : Connection) e, (c.keepEvent e).output = c.output := by
    intro c e
    unfold keepEvent
    split <;> rfl
  unfold deliver outputText
  cases Message.ofJson? message with
  | none => simp
  | some parsed =>
    cases parsed with
    | reverseRequest content => simp
    | response r =>
      simp only [deliverResponse, List.append_nil]
      split <;> rfl
    | event e =>
      simp only [deliverEvent]
      by_cases output : e.name = "output"
      · by_cases ordinary : (e.body.get "category").text? = some "stdout"
        · simp [output, ordinary, captureOutput]
        · simp [output, ordinary, captureOutput]
      · simp only [output, false_and, if_false, List.append_nil]
        split
        · split
          · exact kept _ e
          · exact kept c e
        · split <;> exact kept c e

end Connection

namespace Traffic

/-- A step takes from the beginning of the captured output, or adds to its end what the reader has
received. -/
theorem Step.output {may : Traffic → Debugger.Request → Prop} {t u : Traffic}
    (step : Step may t u) :
    ∃ taken new, outputTaken u.history = outputTaken t.history ++ taken ∧
      outputReceived u.history = outputReceived t.history ++ new ∧
      taken ++ u.connection.output = t.connection.output ++ new ∧ (taken = [] ∨ new = []) := by
  have still : ∀ o, outputTaken (o :: t.history) = outputTaken t.history →
      outputReceived (o :: t.history) = outputReceived t.history →
      ∃ taken new, outputTaken (o :: t.history) = outputTaken t.history ++ taken ∧
        outputReceived (o :: t.history) = outputReceived t.history ++ new ∧
        taken ++ t.connection.output = t.connection.output ++ new ∧ (taken = [] ∨ new = []) := by
    intro o taken received
    exact ⟨[], [], by simp [taken], by simp [received], by simp, .inl rfl⟩
  cases step with
  | begin | finish | arrive => exact ⟨[], [], by simp, by simp, by simp, .inl rfl⟩
  | fail | «break» => exact still .ended rfl rfl
  | die => exact still .died rfl rfl
  | @answer i task r next answer d worker answered =>
    refine ⟨textTaken ⟨r, answer⟩, [], rfl, by simp [exchanged, outputReceived], ?_, .inr rfl⟩
    rw [List.append_nil]
    exact Connection.answer?_output answered
  | @free i task r next answer worker free =>
    have nothing : textTaken ⟨r, answer⟩ = [] := by
      cases r <;> first | rfl | cases free
    exact still (.exchanged i ⟨r, answer⟩) (by simp [outputTaken, nothing]) rfl
  | @read ended message unread reading found =>
    refine ⟨[], outputText message, by simp [outputTaken], rfl, ?_, .inl rfl⟩
    exact Connection.deliver_output { t.connection with unread } message

/-- At every moment what was taken of the output, with what is still captured, is the text of the
output events received so far. -/
theorem Reachable.output_captured {t : Traffic} (reachable : t.Reachable) :
    outputTaken t.history ++ t.connection.output = outputReceived t.history := by
  induction reachable with
  | refl => rfl
  | tail _ step ih =>
    rcases step.output with ⟨taken, new, after, received, moved, -⟩
    rw [after, received, ← ih, List.append_assoc, moved, List.append_assoc]

/-! ## Answers of threads -/

/-- A thread has done its task, and this is the answer: its last exchanges are those of a run of the
task that ends with it. -/
def Gave (t : Traffic) (i : Nat) (task : Debugger.Request) (answer : Debugger.Answer task) :
    Prop :=
  t.workers i = some ⟨task, .done ()⟩ ∧ ∃ c d log before,
    ((Client.answer task).run c).Gives log (answer, d) ∧ exchangesOf i t.history = before ++ log

variable {t : Traffic} {i : Nat}

/-- A thread that has done its task has an answer. -/
theorem Reachable.gave (reachable : t.Reachable) {task : Debugger.Request}
    (worker : t.workers i = some ⟨task, .done ()⟩) : ∃ answer, t.Gave i task answer := by
  rcases reachable.course worker with ⟨c, log, comes, before, last⟩
  rcases comes.gives_done.of_bind with ⟨front, back, ⟨answer, d⟩, rfl, run, rest⟩
  rcases rest.of_done with ⟨rfl, -⟩
  rw [List.append_nil] at last
  exact ⟨answer, worker, c, d, front, before, run, last⟩

/-- A response that was fetched is the first that came to its request. -/
theorem Reachable.first_response (reachable : t.Reachable) {seq : Nat} {r : Response}
    {o : Occurrence} {earlier : List Occurrence} (within : o :: earlier <:+ t.history)
    (fetches : o.Fetches i seq r) : ∃ past, FirstResponse seq r past earlier := by
  have lawful := reachable.kept.told.lawful.of_suffix within
  exact firstResponse lawful.tail (.inl (congrArg Life.reply (fits_of_fetches lawful fetches)))

/-- The response to a thread's evaluation, whose outcome the thread has, and what had happened
before the reader took it. -/
structure Evaluated (t : Traffic) (i : Nat) (code : String) (options : RunOptions)
    (outcome : Evaluation) (r : Response) (past : List Occurrence) : Prop where
  understood : ∃ c d : Client, Client.Understood c r outcome d
  requested : ∃ seq frame earlier,
    .exchanged i ⟨.write ⟨seq, "evaluate", Client.evaluateArguments code options frame⟩, .ok ()⟩ ∈
      t.history ∧
    .exchanged i ⟨.await seq, some r⟩ :: earlier <:+ t.history ∧ FirstResponse seq r past earlier

/-- An evaluation with an outcome has it from the response to its request. -/
theorem Reachable.evaluated (reachable : t.Reachable) {code : String} {options : RunOptions}
    {outcome : Evaluation} (gave : t.Gave i (.evaluate code options) (.ok outcome)) :
    ∃ r past, t.Evaluated i code options outcome r past := by
  rcases gave with ⟨-, c, d, log, before, run, last⟩
  rcases Client.evaluate_gives run with
    ⟨e, failed, -⟩ | ⟨_, front, frame, seq, r, same, rfl, understood⟩
  · cases failed
  cases same
  have written : exchangesOf i t.history =
      (before ++ front ++ [⟨.allocate, seq⟩, ⟨.expect seq, ()⟩]) ++
      ⟨.write ⟨seq, "evaluate", Client.evaluateArguments code options frame⟩, .ok ()⟩ ::
        [⟨.await seq, some r⟩] := by
    simp [last, Client.asked]
  have fetched : exchangesOf i t.history = (before ++ front ++ [⟨.allocate, seq⟩, ⟨.expect seq, ()⟩,
      ⟨.write ⟨seq, "evaluate", Client.evaluateArguments code options frame⟩, .ok ()⟩]) ++
        ⟨.await seq, some r⟩ :: [] := by
    simp [last, Client.asked]
  rcases place_of_exchangesOf written with ⟨_, there, -⟩
  rcases place_of_exchangesOf fetched with ⟨earlier, within, -⟩
  rcases reachable.first_response within (.inl rfl) with ⟨past, first⟩
  exact ⟨r, past, ⟨_, _, understood⟩, seq, frame, earlier, there.subset List.mem_cons_self, within,
    first⟩

/-- What had happened before a response came is a part of what happened. -/
theorem Evaluated.past {code : String} {options : RunOptions} {outcome : Evaluation} {r : Response}
    {past : List Occurrence} (evaluated : t.Evaluated i code options outcome r past) :
    past <:+ t.history := by
  rcases evaluated.requested with ⟨seq, frame, earlier, -, within, ⟨since, message, rfl, -⟩, -⟩
  have here : past <:+ since ++ .received message :: past :=
    (List.suffix_cons _ _).trans (List.suffix_append _ _)
  exact here.trans ((List.suffix_cons _ _).trans within)

/-- When an evaluation has its outcome, what came before the response is captured. -/
theorem Reachable.captured_before_response (reachable : t.Reachable) {code : String}
    {options : RunOptions} {outcome : Evaluation} {r : Response} {past : List Occurrence}
    (evaluated : t.Evaluated i code options outcome r past) :
    outputReceived past <+: outputTaken t.history ++ t.connection.output := by
  rw [reachable.output_captured]
  exact outputReceived_prefix evaluated.past

end Traffic
end NotebookKernel.Dap
