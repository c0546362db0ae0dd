import NotebookKernel.Proofs.Cell.Replies

/-!
When a cell is settled.

A cell is settled when the target has answered its code and described the value, if there is one.
Reading output and the queue of messages comes afterwards, and none of it is part of the answer.
`Kernel.answerCell_settled` says so of two kernels whose calls of the debugger are the same up to
that point: they give the same reply and offer the same result, whatever each is answered later on,
and whatever becomes of the messages.
-/

namespace NotebookKernel

/-! ## What the channel is offered -/

/-- The message that the channel is offered. -/
def Host.Request.message? : Host.Request → Option Broadcast
  | .broadcast m => some m
  | _ => none

/-- The results that the channel is offered; it may take them or not. -/
def offeredResults (log : List Turn) : List (UInt32 × List (String × String) × Json) :=
  log.filterMap fun turn => turn.request.message?.bind Broadcast.result?

/-- The errors that the channel is offered. -/
def offeredErrors (log : List Turn) : List ErrorReport :=
  log.filterMap fun turn => turn.request.message?.bind Broadcast.error?

theorem offeredResults_append (first second : List Turn) :
    offeredResults (first ++ second) = offeredResults first ++ offeredResults second :=
  List.filterMap_append

theorem offeredErrors_append (first second : List Turn) :
    offeredErrors (first ++ second) = offeredErrors first ++ offeredErrors second :=
  List.filterMap_append

/-- Neither is offered in the course of a cell. -/
theorem Course.offers_neither {c d : Relay} {stage : CellStage} {log : List Turn}
    {ending : CellStage.Ending} (course : Course c stage log d ending) (drains : c.Drains) :
    offeredResults log = [] ∧ offeredErrors log = [] := by
  have neither : ∀ turn ∈ log, ∀ m, turn.request.message? = some m →
      m.result? = none ∧ m.error? = none := by
    intro turn mem m offers
    have inCell := course.requests drains turn mem
    cases request : turn.request with
    | broadcast n =>
      rw [request] at inCell offers
      cases offers
      exact inCell.neither
    | _ => rw [request] at offers; cases offers
  constructor
  · refine List.filterMap_eq_nil_iff.mpr fun turn mem => Option.bind_eq_none_iff.mpr ?_
    exact fun m offers => (neither turn mem m offers).1
  · refine List.filterMap_eq_nil_iff.mpr fun turn mem => Option.bind_eq_none_iff.mpr ?_
    exact fun m offers => (neither turn mem m offers).2

/-- The result that stands for what came of a cell: a value by its description, anything else by
none. -/
def Outcome.results (count : UInt32) : Outcome → List (UInt32 × List (String × String) × Json)
  | gave value => [(count, [("text/plain", value.description)], .obj [])]
  | _ => []

/-- After a success the reply says no error, and the result is all that is offered. -/
theorem Kernel.report_succeeded {k : Kernel} {result : Outcome} {printed : Bool}
    {log : List (Exchange Host)} {reply : ExecuteReply}
    (run : (k.report (.ok ⟨result, printed⟩)).Gives log reply) (success : result.succeeded = true) :
    reply = .ok k.counter ∧ offeredResults (log.map .own) = result.results k.counter ∧
      offeredErrors (log.map .own) = [] := by
  cases result with
  | finished =>
    obtain ⟨rfl, rfl⟩ := run.of_done
    exact ⟨rfl, rfl, rfl⟩
  | gave value =>
    obtain ⟨first, second, _, rfl, sent, done⟩ := Program.Gives.of_bind run
    obtain ⟨rfl, rfl⟩ := done.of_done
    obtain ⟨answer, _, rfl, answered⟩ := sent.of_ask
    cases answer with
    | ok _ =>
      obtain ⟨rfl, -⟩ := answered.of_done
      exact ⟨rfl, rfl, rfl⟩
    | error e =>
      obtain ⟨_, _, rfl, warned⟩ := answered.of_ask
      obtain ⟨rfl, -⟩ := warned.of_done
      exact ⟨rfl, rfl, rfl⟩
  | notExpanded e => cases success
  | failed value => cases success

/-! ## Calls of the debugger -/

/-- It is a call of the debugger. -/
def Host.Request.isCall : Host.Request → Bool
  | .debugger _ => true
  | _ => false

/-- The calls among exchanges. -/
def calls (log : List (Exchange Host)) : List (Exchange Host) :=
  log.filter fun exchange => exchange.request.isCall

theorem calls_append (first second : List (Exchange Host)) :
    calls (first ++ second) = calls first ++ calls second :=
  List.filter_append ..

/-- Code is evaluated through calls. -/
theorem codes_calls (log : List (Exchange Host)) : codes (calls log) = codes log := by
  rw [codes, calls, List.filterMap_filter]
  refine List.filterMap_congr fun exchange _ => ?_
  obtain ⟨r, answer⟩ := exchange
  cases r <;> rfl

/-- Two lists of exchanges with equally many evaluations before one of each are the same up to it,
and from there on. -/
theorem eq_of_append_evaluation {first first' rest rest' : List (Exchange Host)}
    {exchange exchange' : Exchange Host}
    (same : first ++ exchange :: rest = first' ++ exchange' :: rest')
    (evaluates : exchange.request.code? ≠ none) (evaluates' : exchange'.request.code? ≠ none)
    (count : (codes first).length = (codes first').length) :
    first = first' ∧ exchange :: rest = exchange' :: rest' := by
  have longer : ∀ {more later : List (Exchange Host)} {one : Exchange Host},
      one.request.code? ≠ none → one :: later = more ++ exchange' :: rest' ∨
        one :: later = more ++ exchange :: rest → codes more = [] → more = [] := by
    intro more later one evaluates split none
    cases more with
    | nil => rfl
    | cons head tail =>
      obtain rfl : head = one := by
        rcases split with split | split <;> exact (List.cons.inj split).1.symm
      exact absurd (List.filterMap_eq_nil_iff.mp none _ List.mem_cons_self) evaluates
  obtain ⟨more, rfl, split⟩ | ⟨more, rfl, split⟩ := List.append_eq_append_iff.mp same
  · rw [codes_append, List.length_append] at count
    obtain rfl := longer evaluates (.inl split) (List.eq_nil_of_length_eq_zero (by omega))
    exact ⟨(List.append_nil _).symm, split⟩
  · rw [codes_append, List.length_append] at count
    obtain rfl := longer evaluates' (.inr split) (List.eq_nil_of_length_eq_zero (by omega))
    exact ⟨List.append_nil _, split.symm⟩

namespace Kernel

/-- A cell is settled by calls of the debugger with a result: the last of them submit its code, the
second to be evaluated, and the answers amount to the result. -/
def Settled (k : Kernel) (log : List (Exchange Host)) (result : Outcome) : Prop :=
  ∃ (earlier : List (Exchange Host)) (code : String) (r : Reaction),
    log = earlier ++ calls (k.submission code r) ∧ (codes earlier).length = 1 ∧
      r.outcome = .ok result

theorem calls_submission (k : Kernel) (code : String) (r : Reaction) :
    calls (k.submission code r) =
      ⟨Host.Request.debugger (.evaluate (k.located code) k.session.options), r.evaluation⟩ ::
        r.subject?.toList.map fun handle =>
          ⟨Host.Request.debugger (.describe handle), r.described⟩ := by
  cases subject : r.subject? <;> simp [submission, subject, calls, Session.evaluating,
    Host.Request.isCall]

/-- What the answers amount to is in the calls, after as many evaluations. -/
theorem outcome_of_calls {k : Kernel} {code code' : String} {r r' : Reaction}
    {first first' later later' : List (Exchange Host)}
    (same : first ++ (calls (k.submission code r) ++ later) =
      first' ++ (calls (k.submission code' r') ++ later'))
    (count : (codes first).length = (codes first').length) : r.outcome = r'.outcome := by
  obtain ⟨evaluation, described⟩ := r
  obtain ⟨evaluation', described'⟩ := r'
  rw [calls_submission, calls_submission, List.cons_append, List.cons_append] at same
  obtain ⟨-, same⟩ := eq_of_append_evaluation same nofun nofun count
  obtain ⟨evaluated, rest⟩ := List.cons.inj same
  obtain ⟨-, rfl⟩ : _ ∧ evaluation = evaluation' := by simpa using evaluated
  cases evaluation with
  | error e => rfl
  | ok evaluation =>
    cases evaluation with
    | valueless => rfl
    | value handle =>
      obtain rfl : described = described' := by simpa using (List.cons.inj rest).1
      rfl
    | failed handle =>
      obtain rfl : described = described' := by simpa using (List.cons.inj rest).1
      rfl

theorem codes_calls_submission (k : Kernel) (code : String) (r : Reaction) :
    (codes (calls (k.submission code r))).length = 1 := by
  rw [codes_calls, codes_submission]
  rfl

/-- The result that settles a cell is what comes of it. -/
theorem Settled.outcome {k k' : Kernel} {source : String} {parent : Json} {cell : List Turn}
    {d : Relay} {outcome : Except Error CellResult} {result : Outcome}
    {log rest closing : List (Exchange Host)} (settled : k.Settled log result)
    (course : Course .absent (.announcing k source parent) cell d (outcome, k'))
    (made : calls (owned cell) ++ closing = log ++ rest) (unsubmitted : codes closing = []) :
    outcome.map CellResult.result = .ok result := by
  obtain ⟨earlier, code, r, rfl, one, classified⟩ := settled
  -- the calls hold two evaluations at least, so the cell was submitted
  have two : 2 ≤ (codes (calls (owned cell) ++ closing)).length := by
    have last := k.codes_calls_submission code r
    simp only [made, codes_append, List.length_append]
    omega
  rw [codes_append, unsubmitted, List.append_nil, codes_calls] at two
  obtain ⟨refresh, later, rfl, -, ended⟩ := course.of_announcing
  rw [owned_append, owned_map_own] at two made
  have context := k.codes_submission (k.language.setContext parent.render) refresh
  cases refused : refresh.refusal? with
  | some e =>
    rw [refused] at ended
    obtain ⟨-, -, rfl⟩ := ended
    simp [context, owned] at two
  | none =>
    rw [refused] at ended
    obtain ⟨expanding, expanded, streamed, rfl, expands, gives, ended⟩ := ended.of_expanding
    have unread : codes expanding = [] :=
      gives.codes_eq_nil (Kernel.expand_asks source k) fun _ expands => expands.code?_eq_none
    rw [owned_append, owned_map_own] at two made
    cases expanded with
    | error e =>
      obtain ⟨-, rfl, -⟩ := ended
      simp [codes_append, context, unread, owned] at two
    | ok code' =>
      obtain ⟨starting, started, streamed, rfl, starts, ended⟩ := ended
      have unsent := Streaming.codes_start starts
      rw [owned_append, owned_map_own] at two made
      cases started with
      | error e =>
        obtain ⟨-, rfl, -⟩ := ended
        simp [codes_append, context, unread, unsent, owned] at two
      | ok _ =>
        obtain ⟨r', after, submitted, answered, -⟩ := ended
        rw [answered, ← classified]
        rw [submitted] at made
        have same : calls (k.submission (k.language.setContext parent.render) refresh) ++
              calls expanding ++ calls starting ++
              (calls (k.submission code' r') ++ (calls after ++ closing)) =
            earlier ++ (calls (k.submission code r) ++ rest) := by
          simpa only [calls_append, List.append_assoc] using made
        refine outcome_of_calls same ?_
        simp [codes_append, codes_calls, context, unread, unsent, one]

/-- A cell that is settled by a success is answered so, whatever comes later. -/
theorem Settled.answerCell {k l : Kernel} {source : String} {parent : Json} {log : List Turn}
    {d : Relay} {reply : ExecuteReply} {common later : List (Exchange Host)} {result : Outcome}
    (settled : k.Settled common result)
    (run : Beside .absent ((Kernel.answerCell source parent).run k) log d (reply, l))
    (made : calls (owned log) = common ++ later) (success : result.succeeded = true) :
    reply = .ok k.counter ∧ offeredResults log = result.results k.counter ∧
      offeredErrors log = [] := by
  obtain ⟨cell, closing, outcome, rfl, -, course, report⟩ := answerCell_course run
  have unsubmitted : codes (calls closing) = [] := by
    rw [codes_calls]
    refine report.codes_eq_nil (report_asks _ _) fun r reports => ?_
    cases r with
    | debugger r => cases r <;> first | rfl | cases reports
    | _ => rfl
  rw [owned_append, owned_map_own, calls_append] at made
  have came := settled.outcome course made unsubmitted
  obtain ⟨noResults, noErrors⟩ := course.offers_neither Relay.absent_drains
  rw [offeredResults_append, offeredErrors_append, noResults, noErrors]
  obtain ⟨-, completion, rfl⟩ := course.comesTo
  cases outcome with
  | error e => cases came
  | ok ended =>
    obtain ⟨result', printed⟩ := ended
    obtain rfl : result' = result := Except.ok.inj came
    exact report_succeeded report success

/-- Nothing after the answers to a cell can spoil it. Of two kernels, in one state and with one cell,
that make the same calls with the same answers until the cell is settled by a success, each replies
that there was no error, with the number of the cell, and offers one result if there is a value and
none otherwise, the same as the other, and no error: however the debugger answers afterwards, what
the relays do and what becomes of the messages. -/
theorem answerCell_settled {k l l' : Kernel} {source : String} {parent : Json}
    {log log' : List Turn} {d d' : Relay} {reply reply' : ExecuteReply}
    {common later later' : List (Exchange Host)} {result : Outcome}
    (one : Beside .absent ((answerCell source parent).run k) log d (reply, l))
    (other : Beside .absent ((answerCell source parent).run k) log' d' (reply', l'))
    (made : calls (owned log) = common ++ later) (made' : calls (owned log') = common ++ later')
    (settled : k.Settled common result) (success : result.succeeded = true) :
    reply = .ok k.counter ∧ reply' = .ok k.counter ∧
      offeredResults log = result.results k.counter ∧
      offeredResults log' = result.results k.counter ∧
      offeredErrors log = [] ∧ offeredErrors log' = [] := by
  obtain ⟨ok, value, quiet⟩ := settled.answerCell one made success
  obtain ⟨ok', value', quiet'⟩ := settled.answerCell other made' success
  exact ⟨ok, ok', value, value', quiet, quiet'⟩

/-- A cell with a value, once with a queue that cannot be read, once with output that cannot, a
fault when the queue is emptied and a channel that does not take the result. -/
theorem answerCell_settled_spoiled :
    ∃ (log log' : List Turn) (d d' : Relay),
      Beside .absent ((answerCell "x" .null).run default) log d (.ok 0, default) ∧
      Beside .absent ((answerCell "x" .null).run default) log' d' (.ok 0, default) ∧
      calls (owned log) ≠ calls (owned log') ∧
      results log = [(0, [("text/plain", "1")], .obj [])] ∧ results log' = [] ∧
      offeredResults log = [(0, [("text/plain", "1")], .obj [])] ∧
      offeredResults log' = [(0, [("text/plain", "1")], .obj [])] ∧
      offeredErrors log = [] ∧ offeredErrors log' = [] := by
  let context := (default : Kernel).submission (TargetLanguage.swift.setContext "null") .valueless
  let cell := (default : Kernel).submission "x" ⟨.ok (.value ⟨0, 1⟩), .ok ⟨"1", some "Int", none⟩⟩
  let begun := context ++ Streaming.emptyRead ++ ⟨Host.Request.startPolling, .ok ()⟩ :: cell
  let value := Host.Request.broadcast (.notification (.textResult 0 "1"))
  have one : ((answerCell "x" .null).run default).Gives
      (begun ++ Streaming.emptyDrain ++
        (default : Kernel).submission TargetLanguage.swift.takeQueue
          ⟨.ok (.value ⟨0, 2⟩), .ok ⟨"[]", none, none⟩⟩ ++
        [⟨Host.Request.debugger (.children ⟨0, 2⟩), Except.error .disconnected⟩] ++
        ⟨Host.Request.log (Log.error .kernel
          ("read display message queue: " ++ Error.disconnected.message)), ()⟩ ::
        ⟨Host.Request.stopPolling, ()⟩ :: Streaming.emptyDrain ++ [⟨value, Except.ok ()⟩])
      (.ok 0, default) := by
    repeat apply Program.Gives.ask
    exact .done _
  have other : ((answerCell "x" .null).run default).Gives
      (begun ++
        [⟨Host.Request.takeGuard, false⟩, ⟨Host.Request.debugger .unreadOutput, 1⟩,
          ⟨Host.Request.debugger (.takeOutput 1000), Except.error .disconnected⟩,
          ⟨Host.Request.log (Log.warn .relay
            ("read target stdout: " ++ Error.disconnected.message)), ()⟩,
          ⟨Host.Request.releaseGuard false, ()⟩] ++
        (default : Kernel).submission TargetLanguage.swift.takeQueue
          ⟨.ok (.failed ⟨0, 2⟩), .ok ⟨"", none, some "fault"⟩⟩ ++
        ⟨Host.Request.log (Log.error .kernel
          "expected value from display message drain, but got: RuntimeError(fault)"), ()⟩ ::
        ⟨Host.Request.stopPolling, ()⟩ :: Streaming.emptyDrain ++
        [⟨value, Except.error .disconnected⟩, ⟨Host.Request.log (Log.warn .kernel
          ("publish execution result: " ++ Error.disconnected.message)), ()⟩])
      (.ok 0, default) := by
    repeat apply Program.Gives.ask
    exact .done _
  have settled : (default : Kernel).Settled (calls begun) (.gave ⟨⟨0, 1⟩, "1", some "Int"⟩) :=
    ⟨calls (context ++ Streaming.emptyRead), "x", _, rfl, rfl, rfl⟩
  have ran := Beside.of_gives one (c := .absent) rfl
  have ran' := Beside.of_gives other (c := .absent) rfl
  obtain ⟨-, -, offered⟩ := answerCell_settled ran ran' (by rfl) (by rfl) settled rfl
  refine ⟨_, _, _, _, ran, ran', fun same => ?_, rfl, rfl, offered⟩
  exact absurd (congrArg List.length same) (by decide)

end Kernel

end NotebookKernel
