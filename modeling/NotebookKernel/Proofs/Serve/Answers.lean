import NotebookKernel.Serve
import NotebookKernel.Proofs.Cell.Settled
import NotebookKernel.Proofs.Json.Fields

/-!
How a request is answered.

Every request is answered by one reply, the last thing that is done for it: what it broadcasts comes
before, and no relay is left (`Serve.answer_answers`). The reply to an execute request has the number
of its cell, one more than the kernel counted before, and so has the result if there is one, whatever
came of the cell. A completion request is answered by `null` exactly while completion is off.
-/

namespace NotebookKernel

namespace Request

/-- The kind of a request. -/
def kind : Request → String
  | execute _ _ => "execute"
  | complete _ _ => "complete"
  | shutdown _ => "shutdown"

/-- The request executes a cell. -/
def executes : Request → Bool
  | execute _ _ => true
  | _ => false

/-- What is to be done after a request: only a request for the end ends the work. -/
def served : Request → Served
  | shutdown _ => .finished
  | _ => .more

end Request

/-- It is a reply to a request. -/
def Host.Request.isReply : Host.Request → Bool
  | .reply _ _ => true
  | _ => false

theorem Host.Request.InCell.isReply_eq_false {r : Host.Request} (inCell : r.InCell) :
    r.isReply = false := by
  cases r with
  | reply kind content =>
    cases inCell with
    | submits asks | expands asks | inspects asks | forwards asks | drains asks => cases asks
  | _ => rfl

/-- Completing code may ask for it. -/
def Host.Request.Completes : Host.Request → Prop
  | .debugger (.complete _ _) | .lockTarget | .unlockTarget | .log _ => True
  | _ => False

/-- Alone, a program goes on from one of its requests to the next. -/
theorem Beside.of_ask_absent {α : Type} {r : Host.Request} {next : Host.Answer r → Act α}
    {log : List Turn} {d : Relay} {a : α} (run : Beside .absent (.ask r next) log d a)
    (still : ∀ answer, Relay.absent.after ⟨r, answer⟩ = .absent) :
    ∃ answer rest, log = .own ⟨r, answer⟩ :: rest ∧ Beside .absent (next answer) rest d a := by
  cases run with
  | ask answer moves permits later =>
    obtain ⟨rfl, rfl⟩ := moves.of_absent
    exact ⟨answer, _, rfl, still answer ▸ later⟩

theorem Beside.ask_absent {α : Type} {r : Host.Request} {next : Host.Answer r → Act α}
    {log : List Turn} {d : Relay} {a : α} (answer : Host.Answer r)
    (still : Relay.absent.after ⟨r, answer⟩ = .absent) (run : Beside .absent (next answer) log d a) :
    Beside .absent (.ask r next) (.own ⟨r, answer⟩ :: log) d a := by
  have permits : Relay.absent.Permits r := by
    cases r <;> trivial
  refine .ask answer (.refl _) permits ?_
  rwa [still]

/-- Two programs run one after the other. -/
theorem Beside.bind {α β : Type} {c d e : Relay} {p : Act α} {f : α → Act β}
    {first second : List Turn} {a : α} {b : β} (left : Beside c p first d a)
    (right : Beside d (f a) second e b) : Beside c (p.bind f) (first ++ second) e b := by
  induction left with
  | done c a => exact right
  | ask answer moves permits _ ih =>
    rw [List.append_assoc]
    exact .ask answer moves permits (ih right)

namespace Kernel

variable {k : Kernel} {log : List (Exchange Host)}

/-- Completion asks the debugger under the lock, or nothing. -/
theorem complete_completes (k : Kernel) (code : String) (cursor : Nat) :
    (k.complete code cursor).Asks Host.Request.Completes := by
  unfold complete
  split
  · refine ⟨trivial, fun _ => ⟨trivial, fun answer => ⟨trivial, fun _ => ?_⟩⟩⟩
    cases answer with
    | ok _ => trivial
    | error e => exact ⟨trivial, fun _ => trivial⟩
  · trivial

theorem complete_asks (k : Kernel) (code : String) (cursor : Nat) :
    (k.complete code cursor).Asks fun r : Host.Request =>
      r ≠ .startPolling ∧ r.isReply = false := by
  apply (complete_completes k code cursor).mono
  intro r completes
  cases r with
  | debugger _ | lockTarget | unlockTarget | log _ => exact ⟨nofun, rfl⟩
  | _ => cases completes

/-- There is a reply to a completion request exactly while completion is on. -/
theorem complete_gives {code : String} {cursor : Nat} {found : Option CompleteReply}
    (run : (k.complete code cursor).Gives log found) :
    found = none ↔ k.completion.enabled = false := by
  unfold complete at run
  split at run
  · next on =>
    rw [on]
    obtain ⟨_, _, result, rfl, -, answered⟩ := Program.Gives.of_bind run
    have some : found ≠ none := by
      cases result with
      | ok completion =>
        obtain ⟨-, rfl⟩ := answered.of_done
        exact nofun
      | error e =>
        obtain ⟨_, _, rfl, warned⟩ := answered.of_ask
        obtain ⟨-, rfl⟩ := warned.of_done
        exact nofun
    simp [some]
  · next off =>
    obtain ⟨-, rfl⟩ := run.of_done
    simp [off]

end Kernel

/-- A result that the channel is offered has that number. -/
def Host.Request.Numbered (count : UInt32) (r : Host.Request) : Prop :=
  ∀ result ∈ r.message?.bind Broadcast.result?, result.1 = count

namespace ExecuteReply

/-- The number of the cell. -/
def count : ExecuteReply → UInt32
  | ok count => count
  | error count _ => count

/-- The number is a field of the reply. -/
theorem get_executionCount (reply : ExecuteReply) :
    reply.toJson.get "execution_count" = .int reply.count.toNat := by
  cases reply with
  | ok count | error count content =>
    rw [toJson, Json.get_object]
    rfl

end ExecuteReply

namespace Kernel

variable {k : Kernel} {log : List (Exchange Host)}

/-- Whatever came of a cell, the reply has its number. -/
theorem report_count {outcome : Except Error CellResult} {reply : ExecuteReply}
    (run : (k.report outcome).Gives log reply) : reply.count = k.counter := by
  have told : ∀ {traceback log}, (k.broadcastError traceback).Gives log reply →
      reply.count = k.counter := by
    intro traceback log run
    obtain ⟨_, _, _, rfl, -, done⟩ := Program.Gives.of_bind run
    obtain ⟨-, rfl⟩ := done.of_done
    rfl
  have internal : ∀ {operation e log}, (k.reportInternal operation e).Gives log reply →
      reply.count = k.counter := by
    intro operation e log run
    obtain ⟨_, _, rfl, broadcast⟩ := run.of_ask
    exact told broadcast
  cases outcome with
  | error e => exact internal run
  | ok cell =>
    obtain ⟨result, printed⟩ := cell
    cases result with
    | finished =>
      obtain ⟨-, rfl⟩ := run.of_done
      rfl
    | gave value =>
      obtain ⟨_, _, _, rfl, -, done⟩ := Program.Gives.of_bind run
      obtain ⟨-, rfl⟩ := done.of_done
      rfl
    | notExpanded e => exact told run
    | failed value =>
      cases printed with
      | false => exact told run
      | true =>
        obtain ⟨_, _, frames, rfl, -, described⟩ := Program.Gives.of_bind run
        cases frames with
        | ok frames => exact told described
        | error e => exact internal described

/-- So has every result that is offered. -/
theorem report_numbers (outcome : Except Error CellResult) :
    (k.report outcome).Asks (Host.Request.Numbered k.counter) := by
  have told : ∀ traceback, (k.broadcastError traceback).Asks (Host.Request.Numbered k.counter) :=
    fun _ => (Act.broadcastOrWarn_asks nofun fun _ => nofun).bind fun _ => trivial
  have internal : ∀ operation e,
      (k.reportInternal operation e).Asks (Host.Request.Numbered k.counter) :=
    fun _ _ => ⟨nofun, fun _ => told _⟩
  cases outcome with
  | error e => exact internal _ e
  | ok cell =>
    obtain ⟨result, printed⟩ := cell
    cases result with
    | finished => trivial
    | gave value =>
      refine (Act.broadcastOrWarn_asks ?_ fun _ => nofun).bind fun _ => trivial
      rintro result ⟨⟩
      rfl
    | notExpanded e => exact told _
    | failed value =>
      cases printed with
      | false => exact told _
      | true =>
        refine Program.Asks.bind (p := k.session.mainTrace.run) ?_ fun frames => ?_
        · exact ⟨nofun, fun frames => by cases frames <;> trivial⟩
        · cases frames with
          | ok frames => exact told _
          | error e => exact internal _ e

/-- A cell is answered under its number, whatever comes of it: the reply has it, and so have all
results that are offered, and the kernel keeps it. -/
theorem answerCell_numbers {k' : Kernel} {source : String} {parent : Json} {log : List Turn}
    {d : Relay} {reply : ExecuteReply}
    (run : Beside .absent ((answerCell source parent).run k) log d (reply, k')) :
    d = .absent ∧ reply.count = k.counter ∧ (∀ result ∈ offeredResults log, result.1 = k.counter) ∧
      k'.counter = k.counter ∧ ∀ turn ∈ log, turn.request.isReply = false := by
  obtain ⟨cell, closing, outcome, rfl, rfl, course, report⟩ := answerCell_course run
  obtain ⟨-, completion, rfl⟩ := course.comesTo
  refine ⟨rfl, report_count report, ?_, rfl, ?_⟩
  · rw [offeredResults_append, (course.offers_neither Relay.absent_drains).1, List.nil_append]
    intro result mem
    obtain ⟨_, mem, offers⟩ := List.mem_filterMap.mp mem
    obtain ⟨exchange, here, rfl⟩ := List.mem_map.mp mem
    exact report.requests (report_numbers outcome) exchange here result offers
  · intro turn mem
    rcases List.mem_append.mp mem with mem | mem
    · exact (course.requests Relay.absent_drains turn mem).isReply_eq_false
    · obtain ⟨exchange, here, rfl⟩ := List.mem_map.mp mem
      have reports := report.requests (report_asks _ _) exchange here
      obtain ⟨r, answer⟩ := exchange
      cases r with
      | reply kind content => cases reports
      | _ => rfl

end Kernel

namespace Serve

/-- What follows the attempt to write a reply. -/
def replied (served : Served) (k : Kernel) :
    Except Error Unit → Act (Except Error Served × Kernel)
  | .ok _ => .done (.ok served, k)
  | .error e => .done (.error e, k)

theorem reply_run (kind : String) (content : Json) (served : Served) (k : Kernel) :
    (do reply kind content; pure served : KernelAction Served).run.run k =
      .ask (.reply kind content) (replied served k) := by
  change Program.ask _ _ = _
  congr 1
  funext answer
  cases answer <;> rfl

theorem answer_execute (k : Kernel) (header : Json) (code : String) :
    (answer (.execute header code)).run.run k =
      ((Kernel.answerCell code header).run k.nextCell).bind fun ending =>
        .ask (.reply "execute" ending.1.toJson) (replied .more ending.2) := by
  change Program.bind (((Kernel.answerCell code header).run k.nextCell).bind _) _ = _
  rw [Program.bind_assoc]
  congr 1
  funext ending
  exact reply_run ..

theorem answer_complete (k : Kernel) (code : String) (cursor : Nat) :
    (answer (.complete code cursor)).run.run k =
      (k.complete code cursor).bind fun found =>
        .ask (.reply "complete" ((found.map CompleteReply.toJson).getD .null))
          (replied .more k) := by
  change Program.bind (((k.complete code cursor).bind _).bind _) _ = _
  rw [Program.bind_assoc, Program.bind_assoc]
  congr 1
  funext found
  exact reply_run ..

theorem answer_shutdown (k : Kernel) (restart : Bool) :
    (answer (.shutdown restart)).run.run k =
      .ask (.reply "shutdown" (.object [("status", .str "ok"), ("restart", .bool restart)]))
        (replied .finished k) :=
  reply_run ..

/-- What the reply to a request says, and what is done before and remains. -/
def Answers (k k' : Kernel) (turns : List Turn) (content : Json) : Request → Prop
  | .execute header code =>
    ∃ reply, Beside .absent ((Kernel.answerCell code header).run k.nextCell) turns .absent
        (reply, k') ∧
      content = reply.toJson ∧ reply.count = k.counter + 1 ∧
      (∀ result ∈ offeredResults turns, result.1 = k.counter + 1) ∧ k'.counter = k.counter + 1
  | .complete _ _ => k' = k ∧ (content = .null ↔ k.completion.enabled = false)
  | .shutdown restart =>
    k' = k ∧ turns = [] ∧ content = .object [("status", .str "ok"), ("restart", .bool restart)]

/-- A request is answered by one reply, after everything else that is done for it. -/
theorem answer_answers {request : Request} {k k' : Kernel} {log : List Turn} {d : Relay}
    {result : Except Error Served}
    (run : Beside .absent ((answer request).run.run k) log d (result, k')) :
    ∃ (turns : List Turn) (content : Json) (written : Except Error Unit),
      log = turns ++ [.own ⟨.reply request.kind content, written⟩] ∧ d = .absent ∧
      result = written.map (fun _ => request.served) ∧
      (∀ turn ∈ turns, turn.request.isReply = false) ∧ Answers k k' turns content request := by
  -- the reply is written alone, and ends the work
  have ends : ∀ {content : Json} {l : Kernel} {rest : List Turn},
      Beside .absent (.ask (.reply request.kind content) (replied request.served l)) rest d
        (result, k') →
      ∃ written, rest = [.own ⟨.reply request.kind content, written⟩] ∧ d = .absent ∧
        result = written.map (fun _ => request.served) ∧ k' = l := by
    intro content l rest run
    obtain ⟨written, _, rfl, done⟩ := run.of_ask_absent fun _ => rfl
    refine ⟨written, ?_⟩
    cases written with
    | ok _ =>
      obtain ⟨rfl, rfl, same⟩ := done.of_done
      cases same
      exact ⟨rfl, rfl, rfl, rfl⟩
    | error e =>
      obtain ⟨rfl, rfl, same⟩ := done.of_done
      cases same
      exact ⟨rfl, rfl, rfl, rfl⟩
  cases request with
  | execute header code =>
    rw [answer_execute] at run
    obtain ⟨turns, rest, _, ⟨reply, l⟩, rfl, ran, later⟩ := run.of_bind
    obtain ⟨rfl, count, numbers, counter, unreplied⟩ := Kernel.answerCell_numbers ran
    obtain ⟨written, rfl, rfl, rfl, rfl⟩ := ends later
    exact ⟨turns, _, written, rfl, rfl, rfl, unreplied, reply, ran, rfl, count, numbers, counter⟩
  | complete code cursor =>
    rw [answer_complete] at run
    obtain ⟨turns, rest, _, found, rfl, ran, later⟩ := run.of_bind
    obtain ⟨rfl, -, asked⟩ := ran.alone rfl (k.complete_asks code cursor) fun start => start.1 rfl
    obtain ⟨written, rfl, rfl, rfl, rfl⟩ := ends later
    refine ⟨turns, _, written, rfl, rfl, rfl, fun turn mem => (asked turn mem).2, rfl, ?_⟩
    rw [← Kernel.complete_gives (ran.gives Relay.absent_drains)]
    cases found with
    | none => simp
    | some reply => simp [CompleteReply.toJson, Json.object]
  | shutdown restart =>
    rw [answer_shutdown] at run
    obtain ⟨written, rfl, rfl, rfl, rfl⟩ := ends run
    exact ⟨[], _, written, rfl, rfl, rfl, List.forall_mem_nil _, rfl, rfl, rfl⟩

end Serve

end NotebookKernel
