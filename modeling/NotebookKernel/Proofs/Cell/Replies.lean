import NotebookKernel.Kernel
import NotebookKernel.Proofs.Cell.Diagnostics
import NotebookKernel.Proofs.Cell.Submissions

/-!
The reply to a cell and what front ends are told about it.

No part of a cell run, and no drain of its relay, broadcasts a result or an error; only the report
that follows does, when the relay is gone. `Kernel.report_gives` says what it tells: as much as the
reply does. `Course.comesTo` says where the outcome that it reports comes from.
-/

namespace NotebookKernel

/-! ## What was broadcast -/

/-- The message that an exchange has broadcast. -/
def Exchange.published? : Exchange Host → Option Broadcast
  | ⟨.broadcast m, .ok ()⟩ => some m
  | _ => none

/-- The channel did not take a message. -/
def Exchange.refused : Exchange Host → Bool
  | ⟨.broadcast _, .error _⟩ => true
  | _ => false

namespace Broadcast

/-- The number, the representations and the metadata of a cell's value. -/
def result? : Broadcast → Option (UInt32 × List (String × String) × Json)
  | notification (.executeResult count data metadata) => some (count, data, metadata)
  | _ => none

/-- The content of an error. -/
def error? : Broadcast → Option ErrorReport
  | notification (.error content) => some content
  | _ => none

end Broadcast

/-- The messages that were broadcast, in order. -/
def published (log : List Turn) : List Broadcast :=
  log.filterMap fun turn => turn.exchange.published?

/-- The results among them. -/
def results (log : List Turn) : List (UInt32 × List (String × String) × Json) :=
  (published log).filterMap Broadcast.result?

/-- The errors among them. -/
def errors (log : List Turn) : List ErrorReport :=
  (published log).filterMap Broadcast.error?

section Published

variable (first second : List Turn)

@[simp]
theorem published_append : published (first ++ second) = published first ++ published second :=
  List.filterMap_append

@[simp]
theorem published_map_own (log : List (Exchange Host)) :
    published (log.map .own) = log.filterMap Exchange.published? := by
  rw [published, List.filterMap_map]
  rfl

@[simp]
theorem results_append : results (first ++ second) = results first ++ results second := by
  simp [results]

@[simp]
theorem errors_append : errors (first ++ second) = errors first ++ errors second := by
  simp [errors]

end Published

/-- What is broadcast in the course of a cell is neither a result nor an error. -/
theorem Host.Request.InCell.neither {m : Broadcast} (inCell : Host.Request.InCell (.broadcast m)) :
    m.result? = none ∧ m.error? = none := by
  cases inCell with
  | submits submits => cases submits
  | expands expands =>
    obtain ⟨s, rfl⟩ := expands
    exact ⟨rfl, rfl⟩
  | inspects inspects => cases inspects
  | forwards forwards =>
    cases m with
    | parts _ => exact ⟨rfl, rfl⟩
    | notification n => cases forwards
  | drains drains =>
    cases m with
    | parts _ => cases drains
    | notification n =>
      cases n with
      | stream name text => exact ⟨rfl, rfl⟩
      | executeResult count data metadata => cases drains
      | error content => cases drains

theorem Exchange.request_of_published {exchange : Exchange Host} {m : Broadcast}
    (sent : exchange.published? = some m) : exchange.request = .broadcast m := by
  obtain ⟨r, answer⟩ := exchange
  cases r with
  | broadcast n =>
    cases answer with
    | ok _ => cases sent; rfl
    | error e => cases sent
  | _ => cases sent

theorem Course.results_eq_nil {c d : Relay} {stage : CellStage} {log : List Turn}
    {ending : CellStage.Ending} (course : Course c stage log d ending) (drains : c.Drains) :
    results log = [] ∧ errors log = [] := by
  have neither : ∀ m ∈ published log, m.result? = none ∧ m.error? = none := by
    intro m mem
    obtain ⟨turn, mem, sent⟩ := List.mem_filterMap.mp mem
    have inCell := course.requests drains turn mem
    rw [Turn.request, Exchange.request_of_published sent] at inCell
    exact inCell.neither
  constructor
  · exact List.filterMap_eq_nil_iff.mpr fun m mem => (neither m mem).1
  · exact List.filterMap_eq_nil_iff.mpr fun m mem => (neither m mem).2

/-! ## What comes of a cell -/

/-- Where the outcome of a cell comes from: the target did not take the context, a line of the cell
could not be expanded, no relay could be started for the output, or the code was submitted and this
is what the answers amount to. -/
inductive Kernel.ComesTo (k : Kernel) (source : String) (parent : Json) (cell : List Turn) :
    Except Error Outcome → Prop
  | refused (r : Reaction) (e : Error) :
    owned cell = k.submission (k.language.setContext parent.render) r → r.refusal? = some e →
      ComesTo k source parent cell (.error e)
  | notExpanded (i : Nat) (line : List Char) (e : ExpansionError) :
    (Text.lines source.toList)[i]? = some line →
      e.Names line (i + 1) k.expander.includePath.roots →
        ComesTo k source parent cell (.ok (.notExpanded e))
  | unrelayed (refresh : Reaction) (code : String) (k' : Kernel)
      (expanding starting : List (Exchange Host)) (e : Error) :
    owned cell =
        k.submission (k.language.setContext parent.render) refresh ++ expanding ++ starting →
      (expand source k).Gives expanding (.ok code, k') →
      (Streaming.start k.chunkSize).run.Gives starting (.error e) →
        ComesTo k source parent cell (.error e)
  | submitted (refresh r : Reaction) (code : String) (k' : Kernel)
      (expanding starting after : List (Exchange Host)) :
    owned cell = k.submission (k.language.setContext parent.render) refresh ++ expanding ++
        (starting ++ k.submission code r ++ after) →
      (expand source k).Gives expanding (.ok code, k') →
      (Streaming.start k.chunkSize).run.Gives starting (.ok ()) →
        ComesTo k source parent cell r.outcome

theorem Kernel.ComesTo.oneLine {k : Kernel} {source : String} {parent : Json} {cell : List Turn}
    {e : ExpansionError} (comes : k.ComesTo source parent cell (.ok (.notExpanded e))) :
    '\n' ∉ e.message.toList := by
  generalize result : Except.ok (Outcome.notExpanded e) = outcome at comes
  cases comes with
  | refused r e _ _ => cases result
  | unrelayed refresh code k' expanding starting e _ _ _ => cases result
  | notExpanded i line e at' names =>
    cases result
    exact names.oneLine (Text.not_mem_of_mem_lines (List.mem_of_getElem? at'))
  | submitted _ r => exact absurd result.symm (r.outcome_ne_notExpanded e)

theorem Course.comesTo {k k' : Kernel} {source : String} {parent : Json} {d : Relay}
    {log : List Turn} {outcome : Except Error CellResult}
    (course : Course .absent (.announcing k source parent) log d (outcome, k')) :
    k.ComesTo source parent log (outcome.map CellResult.result) ∧
      ∃ completion, k' = { k with completion } := by
  obtain ⟨refresh, later, rfl, -, ended⟩ := course.of_announcing
  cases refused : refresh.refusal? with
  | some e =>
    rw [refused] at ended
    obtain ⟨rfl, rfl, rfl⟩ := ended
    refine ⟨.refused refresh e ?_ refused, k'.completion, rfl⟩
    rw [List.append_nil, owned_map_own]
  | none =>
    rw [refused] at ended
    obtain ⟨expanding, expanded, rest, rfl, -, expands, ended⟩ := ended.of_expanding
    refine ⟨?_, Kernel.expand_kernel expands⟩
    cases expanded with
    | error e =>
      obtain ⟨rfl, -⟩ := ended
      obtain ⟨i, line, at', names⟩ := Kernel.expand_refuses expands
      exact .notExpanded i line e at' names
    | ok code =>
      obtain ⟨starting, started, streamed, rfl, starts, ended⟩ := ended
      have begun : owned ((k.submission (k.language.setContext parent.render) refresh).map .own ++
          (expanding.map .own ++ (starting.map .own ++ streamed))) =
          k.submission (k.language.setContext parent.render) refresh ++ expanding ++ starting ++
            owned streamed := by
        simp only [owned_append, owned_map_own, List.append_assoc]
      cases started with
      | error e =>
        obtain ⟨rfl, rfl, -⟩ := ended
        refine .unrelayed refresh code _ expanding starting e ?_ expands starts
        rw [begun]
        exact List.append_nil _
      | ok _ =>
        obtain ⟨r, after, submitted, classified, -⟩ := ended
        rw [classified]
        refine .submitted refresh r code _ expanding starting after ?_ expands starts
        rw [begun, submitted]
        simp only [List.append_assoc]

/-! ## The report -/

/-- The traceback that the ending of a cell calls for, with what was answered about the frames of a
thread. -/
inductive Explains (thread : ThreadId) (log : List (Exchange Host)) :
    Except Error CellResult → List String → Prop
  | internal (e : Error) :
    Explains thread log (.error e)
      ["Kernel is in a bad state. Try restarting the kernel.", "", "Exception in `execute_cell`:",
        e.message]
  | notExpanded (e : ExpansionError) (printed : Bool) :
    Explains thread log (.ok ⟨.notExpanded e, printed⟩) [e.message]
  | silent (value : ShownValue) :
    Explains thread log (.ok ⟨.failed value, false⟩) [value.description]
  | traced (value : ShownValue) (frames : List Frame) :
    ⟨Host.Request.debugger (.frames thread), .ok frames⟩ ∈ log →
      Explains thread log (.ok ⟨.failed value, true⟩)
        ("Current stack trace:" :: (frames.filter Frame.isVisible).map ("\t" ++ ·.description))
  | untraced (value : ShownValue) (e : Error) :
    ⟨Host.Request.debugger (.frames thread), .error e⟩ ∈ log →
      Explains thread log (.ok ⟨.failed value, true⟩)
        ["Kernel is in a bad state. Try restarting the kernel.", "",
          "Exception in `main_thread_trace`:", e.message]

/-- A reply agrees with what is broadcast in the course of a cell, of which `closing` is the report.
A reply that says no error has the number of the cell, no error is broadcast, and one result if
there is a value, with that number and the value's description. A reply that says an error has the
number too, no result is broadcast, and one error, the last of all messages and with the content of
the reply; its traceback is the one that the outcome calls for. -/
def ExecuteReply.Agrees (k : Kernel) (log : List Turn) (closing : List (Exchange Host))
    (outcome : Except Error CellResult) : ExecuteReply → Prop
  | .ok count =>
    count = k.counter ∧ errors log = [] ∧
      ((∃ printed, outcome = .ok ⟨.finished, printed⟩ ∧ results log = []) ∨
        ∃ value printed, outcome = .ok ⟨.gave value, printed⟩ ∧
          results log = [(count, [("text/plain", value.description)], .obj [])])
  | .error count content =>
    count = k.counter ∧ results log = [] ∧ errors log = [content] ∧
      (published log).getLast? = some (.notification (.error content)) ∧
      ∃ traceback, content = ⟨"", "", traceback⟩ ∧
        Explains k.session.mainThread closing outcome traceback

namespace Kernel

section Report

variable {k : Kernel} {log : List (Exchange Host)} {reply : ExecuteReply}

theorem broadcastOrWarn_gives {area : Log.Area} {complaint : String}
    {m : Broadcast} {result : Unit} (run : (Act.broadcastOrWarn area complaint m).Gives log result)
    (accepted : ∀ exchange ∈ log, exchange.refused = false) :
    log = [⟨Host.Request.broadcast m, .ok ()⟩] := by
  obtain ⟨answer, _, rfl, rest⟩ := run.of_ask
  cases answer with
  | error e => cases accepted _ List.mem_cons_self
  | ok _ =>
    obtain ⟨rfl, -⟩ := rest.of_done
    rfl

theorem broadcastError_gives {traceback : List String}
    (run : (k.broadcastError traceback).Gives log reply)
    (accepted : ∀ exchange ∈ log, exchange.refused = false) :
    reply = .error k.counter ⟨"", "", traceback⟩ ∧
      log = [⟨Host.Request.broadcast (.notification (.error ⟨"", "", traceback⟩)), .ok ()⟩] := by
  obtain ⟨first, second, _, rfl, sent, rest⟩ := Program.Gives.of_bind run
  obtain ⟨rfl, rfl⟩ := rest.of_done
  rw [List.append_nil] at accepted ⊢
  exact ⟨rfl, broadcastOrWarn_gives sent accepted⟩

theorem reportInternal_gives {operation : String} {e : Error}
    (run : (k.reportInternal operation e).Gives log reply)
    (accepted : ∀ exchange ∈ log, exchange.refused = false) :
    ∃ record, reply = .error k.counter ⟨"", "", internalTraceback operation e⟩ ∧
      log = [⟨Host.Request.log record, ()⟩, ⟨Host.Request.broadcast
        (.notification (.error ⟨"", "", internalTraceback operation e⟩)), .ok ()⟩] := by
  obtain ⟨_, _, rfl, rest⟩ := run.of_ask
  obtain ⟨rfl, rfl⟩ := broadcastError_gives rest fun exchange mem =>
    accepted exchange (List.mem_cons_of_mem _ mem)
  exact ⟨_, rfl, rfl⟩

theorem faultTraceback_visible (frames : List Frame) :
    faultTraceback (Frame.visible frames) =
      "Current stack trace:" :: (frames.filter Frame.isVisible).map ("\t" ++ ·.description) := by
  simp [faultTraceback, Frame.visible]

/-- A report tells what the reply says: the value if there is one, or, as the last thing, the error
with its traceback. -/
theorem report_gives {outcome : Except Error CellResult}
    (run : (k.report outcome).Gives log reply)
    (accepted : ∀ exchange ∈ log, exchange.refused = false) :
    (∃ printed, outcome = .ok ⟨.finished, printed⟩ ∧ reply = .ok k.counter ∧ log = []) ∨
      (∃ value printed, outcome = .ok ⟨.gave value, printed⟩ ∧ reply = .ok k.counter ∧
        log = [⟨Host.Request.broadcast
          (.notification (.textResult k.counter value.description)), .ok ()⟩]) ∨
      ∃ (earlier : List (Exchange Host)) (traceback : List String),
        reply = .error k.counter ⟨"", "", traceback⟩ ∧
        log = earlier ++ [⟨Host.Request.broadcast
          (.notification (.error ⟨"", "", traceback⟩)), .ok ()⟩] ∧
        (∀ exchange ∈ earlier, exchange.published? = none) ∧
        Explains k.session.mainThread log outcome traceback := by
  cases outcome with
  | error e =>
    obtain ⟨record, rfl, rfl⟩ := reportInternal_gives run accepted
    refine .inr (.inr ⟨[_], _, rfl, rfl, ?_, .internal e⟩)
    exact fun exchange mem => by rw [List.mem_singleton.mp mem]; rfl
  | ok cell =>
    obtain ⟨result, printed⟩ := cell
    cases result with
    | finished =>
      obtain ⟨rfl, rfl⟩ := run.of_done
      exact .inl ⟨printed, rfl, rfl, rfl⟩
    | gave value =>
      obtain ⟨first, second, _, rfl, sent, rest⟩ := Program.Gives.of_bind run
      obtain ⟨rfl, rfl⟩ := rest.of_done
      rw [List.append_nil] at accepted ⊢
      rw [broadcastOrWarn_gives sent accepted]
      exact .inr (.inl ⟨value, printed, rfl, rfl, rfl⟩)
    | notExpanded e =>
      obtain ⟨rfl, rfl⟩ := broadcastError_gives run accepted
      exact .inr (.inr ⟨[], _, rfl, rfl, (fun _ mem => nomatch mem), .notExpanded e printed⟩)
    | failed value =>
      cases printed with
      | false =>
        obtain ⟨rfl, rfl⟩ := broadcastError_gives run accepted
        exact .inr (.inr ⟨[], _, rfl, rfl, (fun _ mem => nomatch mem), .silent value⟩)
      | true =>
        obtain ⟨answer, _, rfl, rest⟩ := run.of_ask
        have later := fun exchange mem => accepted exchange (List.mem_cons_of_mem _ mem)
        cases answer with
        | ok frames =>
          obtain ⟨rfl, rfl⟩ := broadcastError_gives rest later
          refine .inr (.inr ⟨[_], _, rfl, rfl, ?_, ?_⟩)
          · exact fun exchange mem => by rw [List.mem_singleton.mp mem]; rfl
          · rw [faultTraceback_visible]
            exact .traced value frames List.mem_cons_self
        | error e =>
          obtain ⟨record, rfl, rfl⟩ := reportInternal_gives rest later
          refine .inr (.inr ⟨[_, _], _, rfl, rfl, ?_, .untraced value e List.mem_cons_self⟩)
          intro exchange mem
          simp only [List.mem_cons, List.not_mem_nil, or_false] at mem
          rcases mem with rfl | rfl <;> rfl

/-- So a reply agrees with what is broadcast, if no result and no error was broadcast before. -/
theorem report_agrees {cell : List Turn} {outcome : Except Error CellResult}
    (noResults : results cell = []) (noErrors : errors cell = [])
    (run : (k.report outcome).Gives log reply)
    (accepted : ∀ exchange ∈ log, exchange.refused = false) :
    reply.Agrees k (cell ++ log.map .own) log outcome := by
  have results' : results (cell ++ log.map .own) =
      (log.filterMap Exchange.published?).filterMap Broadcast.result? := by
    rw [results_append, noResults, results, published_map_own, List.nil_append]
  have errors' : errors (cell ++ log.map .own) =
      (log.filterMap Exchange.published?).filterMap Broadcast.error? := by
    rw [errors_append, noErrors, errors, published_map_own, List.nil_append]
  obtain ⟨printed, rfl, rfl, rfl⟩ | ⟨value, printed, rfl, rfl, rfl⟩ |
    ⟨earlier, traceback, rfl, rfl, quiet, explains⟩ := report_gives run accepted
  · exact ⟨rfl, errors', .inl ⟨printed, rfl, results'⟩⟩
  · exact ⟨rfl, errors', .inr ⟨value, printed, rfl, results'⟩⟩
  · have none : earlier.filterMap Exchange.published? = [] :=
      List.filterMap_eq_nil_iff.mpr quiet
    rw [List.filterMap_append, none] at results' errors'
    refine ⟨rfl, results', errors', ?_, traceback, rfl, explains⟩
    rw [published_append, published_map_own, List.filterMap_append, none]
    exact List.getLast?_concat

/-- A report broadcasts notifications, logs, and asks for the stack. -/
theorem report_asks_of {allowed : Host.Request → Prop}
    (tells : ∀ n, allowed (.broadcast (.notification n))) (logs : ∀ record, allowed (.log record))
    (looks : ∀ thread, allowed (.debugger (.frames thread))) (k : Kernel)
    (outcome : Except Error CellResult) : (k.report outcome).Asks allowed := by
  have told : ∀ n complaint,
      (Act.broadcastOrWarn .kernel complaint (.notification n)).Asks allowed :=
    fun n _ => Act.broadcastOrWarn_asks (tells n) logs
  have failed : ∀ traceback, (k.broadcastError traceback).Asks allowed :=
    fun _ => (told _ _).bind fun _ => trivial
  have internal : ∀ operation e, (k.reportInternal operation e).Asks allowed :=
    fun _ _ => ⟨logs _, fun _ => failed _⟩
  cases outcome with
  | error e => exact internal _ e
  | ok cell =>
    obtain ⟨result, printed⟩ := cell
    cases result with
    | finished => trivial
    | gave value => exact (told _ _).bind fun _ => trivial
    | notExpanded e => exact failed _
    | failed value =>
      cases printed with
      | false => exact failed _
      | true =>
        refine ⟨looks _, fun answer => ?_⟩
        cases answer with
        | ok frames => exact failed _
        | error e => exact internal _ e

theorem report_asks (k : Kernel) (outcome : Except Error CellResult) :
    (k.report outcome).Asks Host.Request.Reports :=
  report_asks_of (fun _ => trivial) (fun _ => trivial) (fun _ => trivial) k outcome

end Report

/-- A cell is run, and then what came of it is reported. -/
theorem answerCell_eq (k : Kernel) (source : String) (parent : Json) :
    (answerCell source parent).run k =
      ((runCell source parent).run.run k).bind fun ending =>
        (ending.2.report ending.1).bind fun reply => .done (reply, ending.2) :=
  rfl

/-- The report follows the course of the cell, when its relay is gone. -/
theorem answerCell_course {k k' : Kernel} {source : String} {parent : Json} {log : List Turn}
    {d : Relay} {reply : ExecuteReply}
    (run : Beside .absent ((answerCell source parent).run k) log d (reply, k')) :
    ∃ (cell : List Turn) (closing : List (Exchange Host)) (outcome : Except Error CellResult),
      log = cell ++ closing.map .own ∧ d = .absent ∧
      Course .absent (.announcing k source parent) cell .absent (outcome, k') ∧
      (k'.report outcome).Gives closing reply := by
  rw [answerCell_eq, ← CellStage.whole_announcing] at run
  obtain ⟨cell, _, middle, ⟨outcome, after⟩, rfl, ran, reported⟩ := run.of_bind
  have course := ran.course
  obtain rfl : middle = .absent := course.ends_absent fun _ => rfl
  obtain ⟨closing, _, _, _, rfl, report, done⟩ := reported.of_bind
  obtain ⟨rfl, rfl, same⟩ := done.of_done
  cases same
  obtain ⟨rfl, turns, -⟩ := report.alone rfl (report_asks _ _) id
  refine ⟨cell, owned closing, outcome, ?_, rfl, course, report.gives Relay.absent_drains⟩
  rw [← turns, List.append_nil]

end Kernel

end NotebookKernel
