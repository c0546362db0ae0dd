import NotebookKernel.Proofs.Cell.Flushing
import NotebookKernel.Proofs.Dap.Arrivals
import NotebookKernel.Proofs.Dap.Capture

/-!
The kernel and its relay, with a target behind a connection.

A `Desk` has a target that prints and text that is captured; `Traffic` has a debugger that sends
messages and threads that ask. `Connected` is both at once: what the target prints is what the
reader of the connection captures, and whoever reads output at the desk has a thread of the
connection take it. What other requests of the kernel are answered is left open. It follows that the
output that came before the response to an evaluation is broadcast when the cell's flush has ended
(`Traffic.Reachable.output_before_answer`).
-/

namespace NotebookKernel

/-- A desk whose target is behind a connection. -/
structure Connected where
  desk : Desk
  traffic : Dap.Traffic

namespace Connected

/-- The target prints. -/
def printing (c : Desk) (text : List Char) : Desk :=
  { c with
    shared := { c.shared with captured := c.shared.captured ++ text }
    history := .printed text :: c.history }

/-- Someone at the desk takes part in a read of output. -/
def Reads (c d : Desk) (limit : Nat) (answer : Except Error String) : Prop :=
  ∃ party, d.history = .exchanged party ⟨.debugger (.takeOutput limit), answer⟩ :: c.history

/-- What may happen at the desk or at the connection. -/
inductive Step : Connected → Connected → Prop
  /-- Something happens at the connection; the reader may capture output. -/
  | connection {c : Desk} {t u : Dap.Traffic} {text : List Char} :
    Dap.Traffic.Step (fun _ _ => True) t u →
      u.connection.output = t.connection.output ++ text → Step ⟨c, t⟩ ⟨printing c text, u⟩
  /-- The kernel or its relay does something else than to read output. -/
  | desk {c d : Desk} {t : Dap.Traffic} :
    Desk.Step c d → d.shared.captured = c.shared.captured →
      (∀ limit answer, ¬Reads c d limit answer) → Step ⟨c, t⟩ ⟨d, t⟩
  /-- The kernel or its relay reads output, which a thread of the connection takes. -/
  | read {c d : Desk} {t u : Dap.Traffic} {i limit : Nat} {text : String} :
    Desk.Step c d → Dap.Traffic.Step (fun _ _ => True) t u → Reads c d limit (.ok text) →
      u.history = .exchanged i ⟨.takeOutput limit, text⟩ :: t.history → Step ⟨c, t⟩ ⟨d, u⟩

/-- What may come to be. -/
def Leads (s t : Connected) : Prop :=
  Relation.ReflTransGen Step s t

/-- What may come to be from the first. -/
def Reachable (s : Connected) : Prop :=
  Leads ⟨.initial, .initial⟩ s

/-! ## Both sides tell the same -/

/-- Desk and connection are such as can come to be, and they agree on output. -/
structure Agrees (s : Connected) : Prop where
  desk : s.desk.Reachable
  traffic : s.traffic.Reachable
  captured : s.desk.shared.captured = s.traffic.connection.output
  printed : printed s.desk.history = Dap.outputReceived s.traffic.history
  read : Unfailed s.desk.history

/-- A read at the desk takes the beginning of what is captured. -/
theorem captured_of_reads {c d : Desk} {limit : Nat} {text : String} (step : Desk.Step c d)
    (reads : Reads c d limit (.ok text)) :
    c.shared.captured = text.toList ++ d.shared.captured := by
  rcases reads with ⟨party, happened⟩
  cases step with
  | print | begin => cases happened
  | exchange answer t within answered =>
    cases happened
    exact answered.1
  | relayExchange answer t underWay answered =>
    cases happened
    exact answered.1
  | advance | finish | poll | rest => exact absurd happened.symm (List.cons_ne_self _ _)

/-- Only a read at the desk can be a failed one. -/
theorem of_effect_failed {exchange : Exchange Host} (failed : exchange.effect = .failed) :
    ∃ limit e, exchange = ⟨.debugger (.takeOutput limit), .error e⟩ := by
  unfold Exchange.effect at failed
  split at failed
  · cases failed
  · exact ⟨_, _, rfl⟩
  all_goals cases failed

theorem unfailed_cons {event : Event} {history : List Event} (here : event.drained ≠ .failed)
    (read : Unfailed history) : Unfailed (event :: history) := by
  intro other mem
  rcases List.mem_cons.mp mem with rfl | mem
  · exact here
  · exact read other mem

/-- What is no read leaves what was printed, and no read of it fails. -/
theorem of_unread {c d : Desk} (step : Desk.Step c d)
    (captured : d.shared.captured = c.shared.captured)
    (unread : ∀ limit answer, ¬Reads c d limit answer) (read : Unfailed c.history) :
    NotebookKernel.printed d.history = NotebookKernel.printed c.history ∧ Unfailed d.history := by
  have exchanged : ∀ party exchange, d.history = .exchanged party exchange :: c.history →
      NotebookKernel.printed d.history = NotebookKernel.printed c.history ∧
        Unfailed d.history := by
    intro party exchange happened
    rw [happened]
    refine ⟨printed_of_exchange rfl, unfailed_cons (fun failed => ?_) read⟩
    simp only [Event.drained] at failed
    split at failed
    · cases failed
    · rcases of_effect_failed failed with ⟨limit, e, rfl⟩
      exact unread limit (.error e) ⟨party, happened⟩
  cases step with
  | print text =>
    have nothing : text = [] := List.append_right_eq_self.mp captured
    rw [NotebookKernel.printed, Event.output, nothing, List.append_nil]
    exact ⟨rfl, unfailed_cons (by simp [Event.drained]) read⟩
  | begin => exact ⟨printed_of_exchange rfl, unfailed_cons (by simp [Event.drained]) read⟩
  | exchange answer t within answered => exact exchanged _ _ rfl
  | relayExchange answer t underWay answered => exact exchanged _ _ rfl
  | advance | finish | poll | rest => exact ⟨rfl, read⟩

theorem Step.agrees {s t : Connected} (agrees : s.Agrees) (step : Step s t) : t.Agrees := by
  cases step with
  | @connection c t u text step output =>
    rcases step.output with ⟨taken, new, -, received, moved, one⟩
    have same : text = new := by
      rw [output, ← List.append_assoc] at moved
      rcases one with rfl | rfl
      · exact List.append_cancel_left moved
      · have nothing := congrArg List.length moved
        simp only [List.length_append, List.length_nil] at nothing
        exact List.eq_nil_of_length_eq_zero (by omega)
    refine ⟨agrees.desk.tail (.print text), agrees.traffic.tail step, ?_, ?_, ?_⟩
    · rw [output, ← agrees.captured]
      rfl
    · rw [received, ← agrees.printed, ← same]
      rfl
    · exact unfailed_cons (by simp [Event.drained]) agrees.read
  | @desk c d t step same unread =>
    rcases of_unread step same unread agrees.read with ⟨kept, unfailed⟩
    exact ⟨agrees.desk.tail step, agrees.traffic, same.trans agrees.captured,
      kept.trans agrees.printed, unfailed⟩
  | @read c d t u i limit text step taking reads took =>
    have front := captured_of_reads step reads
    have before := agrees.traffic.output_captured
    have after := Dap.Traffic.Reachable.output_captured (agrees.traffic.tail taking)
    rw [took] at after
    change (Dap.outputTaken t.history ++ text.toList) ++ u.connection.output =
      Dap.outputReceived t.history at after
    rw [← before, List.append_assoc, List.append_cancel_left_eq] at after
    rcases reads with ⟨party, happened⟩
    refine ⟨agrees.desk.tail step, agrees.traffic.tail taking, ?_, ?_, ?_⟩
    · rw [agrees.captured, ← after] at front
      exact (List.append_cancel_left front).symm
    · rw [took, happened, printed_of_exchange rfl]
      exact agrees.printed
    · rw [happened]
      refine unfailed_cons (fun failed => ?_) agrees.read
      simp only [Event.drained] at failed
      split at failed
      · cases failed
      · cases failed

theorem Leads.agrees {s t : Connected} (leads : s.Leads t) (agrees : s.Agrees) : t.Agrees := by
  induction leads with
  | refl => exact agrees
  | tail _ step ih => exact step.agrees ih

theorem Reachable.agrees {s : Connected} (reachable : s.Reachable) : s.Agrees := by
  apply Leads.agrees reachable
  exact ⟨.refl, .refl, rfl, rfl, fun _ mem => nomatch mem⟩

/-! ## From the evaluation to the end of the flush -/

/-- What happens at the connection is a print for the desk. -/
theorem Step.desk_step {s t : Connected} (step : Step s t) : Desk.Step s.desk t.desk := by
  cases step with
  | @connection c t u text step output => exact .print text
  | desk step same unread => exact step
  | read step taking reads took => exact step

/-- A text that was printed when an evaluation was under way is accounted for from then on. -/
theorem Leads.owes {s t : Connected} (leads : s.Leads t) (agrees : s.Agrees) {mark : List Char}
    (before : mark <+: NotebookKernel.printed s.desk.history) {k : Kernel} {source : String}
    {rest : Act (Except Error Outcome)}
    (within : s.desk.thread = .within (.executing k source) rest) (sent : Sent t.desk.history) :
    ∃ own relay, t.desk.Kept own relay ∧ t.desk.Owes mark own := by
  induction leads with
  | refl =>
    rcases agrees.desk.kept with ⟨own, relay, kept⟩
    refine ⟨own, relay, kept, before, ?_⟩
    rw [within]
    trivial
  | @tail t u run step ih =>
    have earlier : Sent t.desk.history :=
      fun event mem => sent event (step.desk_step.suffix.subset mem)
    rcases ih earlier with ⟨own, relay, kept, owes⟩
    have read := (step.agrees (Leads.agrees run agrees)).read
    exact owes.step kept step.desk_step sent read

/-- The flush of the cell broadcasts what was printed when its evaluation was under way. -/
theorem Leads.flushed {s t : Connected} (leads : s.Leads t) (agrees : s.Agrees) {mark : List Char}
    (before : mark <+: NotebookKernel.printed s.desk.history) {k : Kernel} {source : String}
    {rest : Act (Except Error Outcome)}
    (within : s.desk.thread = .within (.executing k source) rest) (sent : Sent t.desk.history)
    {result : Outcome} {had : Bool}
    (flushed : t.desk.thread = .within (.flushing k result) (.done had)) :
    mark <+: relayed t.desk.history := by
  rcases leads.owes agrees before within sent with ⟨own, relay, kept, owes⟩
  exact owes.flushed kept sent flushed

/-! ## What may happen, one thing after the other -/

section Leads

variable {s : Connected} {c : Desk} {t u : Dap.Traffic}

/-- What has come to be may stay as it is. -/
theorem Leads.here {s t : Connected} (_ : s.Leads t) : t.Leads t :=
  .refl

/-- Something happens at the connection without any output. -/
theorem Leads.quietly (leads : s.Leads ⟨c, t⟩) (step : Dap.Traffic.Step (fun _ _ => True) t u)
    (quiet : u.connection.output = t.connection.output) : s.Leads ⟨printing c [], u⟩ :=
  leads.tail (.connection step (by rw [quiet, List.append_nil]))

/-- The debugger sends a message. -/
theorem Leads.told {message : Json} (leads : s.Leads ⟨c, t⟩)
    (reading : t.connection.reading = true) (nothing : t.connection.unread = [])
    (faithful : Dap.Frame.Faithful message) :
    s.Leads ⟨printing (printing c []) (Dap.outputText message), t.told message⟩ := by
  have ⟨arrives, takes⟩ : Dap.Traffic.Step (fun _ _ => True) t _ ∧
      Dap.Traffic.Step (fun _ _ => True) _ (t.told message) :=
    Dap.Traffic.tells reading nothing faithful
  exact (leads.quietly arrives rfl).tail
    (.connection takes (Dap.Connection.deliver_output t.connection message))

/-- The kernel or its relay does what is no exchange. -/
theorem Leads.acts {d : Desk} (leads : s.Leads ⟨c, t⟩) (step : Desk.Step c d)
    (same : d.shared.captured = c.shared.captured)
    (silent : d.history = c.history ∨ d.history = .began :: c.history) : s.Leads ⟨d, t⟩ := by
  refine leads.tail (.desk step same ?_)
  intro limit taken ⟨party, happened⟩
  rw [happened] at silent
  rcases silent with none | began
  · exact List.cons_ne_self _ _ none
  · cases began

/-- The kernel takes part in an exchange that is no read of output. -/
theorem Leads.exchange {stage : CellStage} {r : Host.Request}
    {next : Host.Answer r → Act stage.Result} (leads : s.Leads ⟨c, t⟩)
    (answer : Host.Answer r) (after : Shared) (within : c.thread = .within stage (.ask r next))
    (unread : ∀ limit, r ≠ .debugger (.takeOutput limit))
    (answered : c.shared.Answers c.drain.isSome (Exchange.effect ⟨r, answer⟩) after)
    (same : after.captured = c.shared.captured) :
    s.Leads ⟨{ c with
      thread := .within stage (next answer)
      shared := after
      history := .exchanged (.kernel stage) ⟨r, answer⟩ :: c.history }, t⟩ := by
  refine leads.tail (.desk (.exchange answer after within answered) same ?_)
  intro limit taken reads
  rcases reads with ⟨party, happened⟩
  cases happened
  exact unread limit rfl

/-- The kernel reads output, which a thread takes. -/
theorem Leads.read {stage : CellStage} {limit i : Nat} {task : Debugger.Request}
    {next : Except Error String → Act stage.Result} {rest : String → Dap.LinkAct Unit}
    (leads : s.Leads ⟨c, t⟩) (text : String) (left : List Char)
    (within : c.thread = .within stage (.ask (.debugger (.takeOutput limit)) next))
    (worker : t.workers i = some ⟨task, .ask (.takeOutput limit) rest⟩)
    (split : c.shared.captured = text.toList ++ left)
    (progress : c.shared.captured ≠ [] → text.toList ≠ [])
    (took : t.connection.answer? (.takeOutput limit) =
      some (text, { t.connection with output := left })) :
    s.Leads ⟨{ c with
        thread := .within stage (next (Except.ok text))
        shared := { c.shared with captured := left }
        history := .exchanged (.kernel stage)
          ⟨Host.Request.debugger (.takeOutput limit), Except.ok text⟩ :: c.history },
      t.exchanged i task ⟨.takeOutput limit, text⟩ (rest text)
        { t.connection with output := left }⟩ := by
  have reads : Desk.Step c { c with
      thread := .within stage (next (Except.ok text))
      shared := { c.shared with captured := left }
      history :=
        .exchanged (.kernel stage) ⟨Host.Request.debugger (.takeOutput limit), Except.ok text⟩ ::
          c.history } :=
    .exchange (r := .debugger (.takeOutput limit)) (Except.ok text) _ within
      ⟨split, progress, rfl⟩
  exact leads.tail (.read reads (.answer worker took) ⟨_, rfl⟩ rfl)

/-- The debugger answers a request that is expected. -/
theorem Leads.responded {r : Dap.Response} {n : Nat} (leads : s.Leads ⟨c, t⟩)
    (low : -Int.pow 2 63 ≤ r.requestSeq) (high : r.requestSeq < Int.pow 2 63)
    (pending : t.connection.pending = [n]) (number : (n : Int) = r.requestSeq)
    (reading : t.connection.reading = true) (nothing : t.connection.unread = [])
    (faithful : Dap.Frame.Faithful r.toJson) :
    s.Leads ⟨printing (printing c []) [], { t with
      connection := { t.connection with
        pending := []
        delivered := t.connection.delivered ++ [(n, r)] }
      history := .received r.toJson :: t.history }⟩ := by
  have run := leads.told reading nothing faithful
  have quiet : Dap.outputText r.toJson = [] := by
    unfold Dap.outputText
    rw [Dap.Message.ofJson?_response low high]
  have mem : n ∈ t.connection.pending := by
    rw [pending]
    exact List.mem_singleton_self n
  rw [quiet, Dap.Traffic.told_response low high mem number, pending, List.erase_cons_head] at run
  exact run

/-- An event with output of the target. -/
def outputEvent (text : String) : Dap.Event :=
  ⟨"output", .obj [("category", .str "stdout"), ("output", .str text)]⟩

theorem Leads.output (text : String) (leads : s.Leads ⟨c, t⟩)
    (reading : t.connection.reading = true) (nothing : t.connection.unread = [])
    (faithful : Dap.Frame.Faithful (outputEvent text).toJson) :
    s.Leads ⟨printing (printing c []) text.toList, { t with
      connection := { t.connection with output := t.connection.output ++ text.toList }
      history := .received (outputEvent text).toJson :: t.history }⟩ := by
  have run := leads.told reading nothing faithful
  have captured : Dap.outputText (outputEvent text).toJson = text.toList := by
    unfold Dap.outputText
    rw [Dap.Message.ofJson?_event]
    rfl
  rw [captured, Dap.Traffic.told_event] at run
  exact run

end Leads

/-- A response without a body. -/
def silence (seq : Nat) : Dap.Response :=
  ⟨seq, true, "", none, .null⟩

end Connected

/-- Output comes before the answer that it belongs to. -/
theorem Dap.Traffic.Reachable.output_before_answer {t : Dap.Traffic} (reachable : t.Reachable) :
    -- what was taken of the output, with what is captured, is that of the messages so far
    Dap.outputTaken t.history ++ t.connection.output = Dap.outputReceived t.history ∧
    -- an evaluation with an outcome has it from the response to its request
    ∀ i code options outcome, t.Gave i (.evaluate code options) (.ok outcome) →
      ∃ r past, t.Evaluated i code options outcome r past ∧
        -- and all output that came before the response is there
        Dap.outputReceived past <+: Dap.outputTaken t.history ++ t.connection.output ∧
        -- if it was a cell's evaluation, all this output is broadcast when its flush has ended
        ∀ d : Desk, Connected.Reachable ⟨d, t⟩ →
          ∀ k source rest, d.thread = .within (.executing k source) rest →
          ∀ later, Connected.Leads ⟨d, t⟩ later → Sent later.desk.history →
          ∀ result had, later.desk.thread = .within (.flushing k result) (.done had) →
            Dap.outputReceived past <+: relayed later.desk.history := by
  refine ⟨reachable.output_captured, fun i code options outcome gave => ?_⟩
  rcases reachable.evaluated gave with ⟨r, past, evaluated⟩
  refine ⟨r, past, evaluated, reachable.captured_before_response evaluated, ?_⟩
  intro d connected k source rest within later leads sent result had flushed
  have agrees := connected.agrees
  refine leads.flushed agrees ?_ within sent flushed
  rw [agrees.printed]
  exact Dap.outputReceived_prefix evaluated.past

open Dap in
/-- A cell's evaluation prints before it is answered, and the flush of the cell broadcasts that. -/
theorem Dap.Traffic.Reachable.output_before_answer_hello :
    ∃ (t : Traffic) (d : Desk) (later : Connected), t.Reachable ∧
      t.Gave 0 (.evaluate "x" default) (.ok .valueless) ∧
      outputReceived t.history = "hello".toList ∧ Connected.Reachable ⟨d, t⟩ ∧
      Connected.Leads ⟨d, t⟩ later ∧ Sent later.desk.history ∧
      ∃ r past, t.Evaluated 0 "x" default .valueless r past ∧
        outputReceived past <+: outputTaken t.history ++ t.connection.output ∧
        outputReceived past <+: relayed later.desk.history := by
  -- three threads to take output, and the kernel up to the evaluation of a cell
  have run : Connected.Leads _ _ := Relation.ReflTransGen.refl (a := ⟨.initial, .initial⟩)
  have run := run.quietly (.begin (i := 1) (.takeOutput 1000) default rfl trivial) rfl
  have run := run.quietly (.begin (i := 2) (.takeOutput 1000) default rfl trivial) rfl
  have run := run.quietly (.begin (i := 3) (.takeOutput 1000) default rfl trivial) rfl
  have run := run.acts (.begin default "x" .null rfl) rfl (.inr rfl)
  have run := run.exchange () _ rfl nofun rfl rfl
  have run := run.exchange () _ rfl nofun rfl rfl
  have run := run.exchange (Except.ok Evaluation.valueless) _ rfl nofun rfl rfl
  have run := run.exchange () _ rfl nofun rfl rfl
  have run := run.exchange () _ rfl nofun rfl rfl
  have run := run.acts (.advance rfl rfl) rfl (.inl rfl)
  have run := run.acts (.advance rfl rfl) rfl (.inl rfl)
  have run := run.exchange (0 : Nat) _ rfl nofun ⟨Nat.le_refl 0, rfl⟩ rfl
  have run := run.read (i := 1) "" [] rfl rfl rfl (fun some => absurd rfl some) rfl
  have run := run.exchange (Except.ok ()) _ rfl nofun rfl rfl
  have run := run.acts (.advance rfl rfl) rfl (.inl rfl)
  -- the evaluation over the connection
  have run := run.quietly
    (.begin (i := 0) (.evaluate "x" default) ⟨.null, some ⟨1⟩, .empty⟩ rfl trivial) rfl
  have run := run.quietly (.answer (i := 0) rfl rfl) rfl
  have run := run.quietly (.answer (i := 0) rfl rfl) rfl
  have run := run.quietly (@Dap.Traffic.Step.free _ _ 0 _ (.write _) _ (.ok ()) rfl trivial) rfl
  have run := run.responded (r := Connected.silence 1) (n := 1) (by decide) (by decide)
    rfl rfl rfl rfl (by decide +kernel)
  have run := run.quietly (@Dap.Traffic.Step.answer _ _ 0 _ (.await 1) _ _ _ rfl rfl) rfl
  have run := run.quietly (.answer (i := 0) rfl rfl) rfl
  have run := run.quietly (.answer (i := 0) rfl rfl) rfl
  have run := run.quietly (@Dap.Traffic.Step.free _ _ 0 _ (.write _) _ (.ok ()) rfl trivial) rfl
  have run := run.output "hello" rfl rfl (by decide +kernel)
  have run := run.responded (r := Connected.silence 2) (n := 2) (by decide) (by decide)
    rfl rfl rfl rfl (by decide +kernel)
  have run := run.quietly (@Dap.Traffic.Step.answer _ _ 0 _ (.await 2) _ _ _ rfl rfl) rfl
  -- the kernel up to the end of the flush
  have flushed := run.here
  have flushed := flushed.exchange () _ rfl nofun rfl rfl
  have flushed := flushed.exchange () _ rfl nofun rfl rfl
  have flushed := flushed.exchange (Except.ok Evaluation.valueless) _ rfl nofun rfl rfl
  have flushed := flushed.exchange () _ rfl nofun rfl rfl
  have flushed := flushed.exchange () _ rfl nofun rfl rfl
  have flushed := flushed.acts (.advance rfl rfl) rfl (.inl rfl)
  have flushed := flushed.exchange false _ rfl nofun ⟨rfl, rfl, rfl⟩ rfl
  have flushed := flushed.exchange (5 : Nat) _ rfl nofun ⟨Nat.le_refl 5, rfl⟩ rfl
  have flushed := flushed.read (i := 2) "hello" [] rfl rfl rfl (by decide) rfl
  have flushed := flushed.read (i := 3) "" [] rfl rfl rfl (fun some => absurd rfl some) rfl
  have flushed := flushed.exchange (Except.ok ()) _ rfl nofun rfl rfl
  have flushed := flushed.exchange () _ rfl nofun rfl rfl
  have gives : ((Client.answer (.evaluate "x" default)).run ⟨.null, some ⟨1⟩, .empty⟩).Gives
      (Client.asked "stackTrace" (.object [("threadId", .int 1), ("startFrame", .int 0),
          ("levels", .int 1)]) 1 (some (Connected.silence 1)) ++
        Client.asked "evaluate" (Client.evaluateArguments "x" default none) 2
          (some (Connected.silence 2))) (.ok .valueless, _) :=
    .ask _ _ (.ask _ _ (.ask _ _ (.ask _ _ (.ask _ _ (.ask _ _ (.ask _ _ (.ask _ _ (.done _))))))))
  have reachable := (Connected.Reachable.agrees run).traffic
  rcases (Reachable.output_before_answer reachable).2 0 "x" default .valueless
    ⟨rfl, _, _, _, [], gives, rfl⟩ with ⟨r, past, evaluated, here, publishes⟩
  exact ⟨_, _, _, reachable, ⟨rfl, _, _, _, [], gives, rfl⟩, rfl, run, flushed, by decide, r, past,
    evaluated, here, publishes _ run _ _ _ rfl _ flushed (by decide) _ _ rfl⟩

end NotebookKernel
