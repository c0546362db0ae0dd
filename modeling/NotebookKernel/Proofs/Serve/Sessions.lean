import NotebookKernel.Proofs.Json.Equality
import NotebookKernel.Proofs.Serve.Lines

/-!
What an input is answered.

A session is made of parts, one for each request that counts, in order: what is done for the request
and, as the last thing, its reply. `Serve.all_answered` takes every run over lines of text apart in
this way. Its execute requests are numbered on from the kernel's counter, and all that is written and
called is what it would be without the lines that do not count.
-/

namespace NotebookKernel.Serve

deriving instance DecidableEq for Request

/-- A request that was answered. -/
structure Part where
  request : Request
  /-- The kernel that the request came to. -/
  before : Kernel
  /-- What was done for it before its reply. -/
  turns : List Turn
  /-- The content of its reply. -/
  content : Json
  /-- The kernel that is left. -/
  after : Kernel

namespace Part

/-- All that was done for a request, the reply being the last. -/
def log (part : Part) : List Turn :=
  part.turns ++ [.own ⟨.reply part.request.kind part.content, .ok ()⟩]

/-- The request was answered as is due, by one reply. -/
structure Answered (part : Part) : Prop where
  run : Beside .absent ((answer part.request).run.run part.before) part.log .absent
    (.ok part.request.served, part.after)
  single : ∀ turn ∈ part.turns, turn.request.isReply = false
  answers : Answers part.before part.after part.turns part.content part.request

end Part

/-- Requests were answered one after the other, from one kernel to another. -/
inductive Session : Kernel → List Part → Kernel → Prop
  | nil (k : Kernel) : Session k [] k
  | cons {part : Part} {rest : List Part} {k : Kernel} : part.Answered →
    Session part.after rest k → Session part.before (part :: rest) k

namespace Session

variable {k k' : Kernel} {parts : List Part}

theorem answered (session : Session k parts k') : ∀ part ∈ parts, part.Answered := by
  induction session with
  | nil => exact List.forall_mem_nil _
  | cons here _ ih => exact List.forall_mem_cons.mpr ⟨here, ih⟩

/-- A request comes to a kernel that has counted the cells before it. -/
theorem counter_before {earlier later : List Part} {part : Part}
    (session : Session k (earlier ++ part :: later) k')
    (unwrapped : k.counter.toNat +
      (earlier ++ part :: later).countP (fun part => part.request.executes) < UInt32.size) :
    part.before.counter.toNat =
      k.counter.toNat + earlier.countP fun part => part.request.executes := by
  induction earlier generalizing k with
  | nil =>
    cases session
    rfl
  | cons first rest ih =>
    cases session with
    | cons here session =>
      rw [List.cons_append, List.countP_cons] at unwrapped
      rw [List.countP_cons]
      -- the counter goes on by one if the first request executes a cell
      have counted : first.after.counter.toNat =
          first.before.counter.toNat + if first.request.executes then 1 else 0 := by
        have answers := here.answers
        cases request : first.request with
        | execute header code =>
          rw [request] at answers unwrapped
          obtain ⟨_, -, -, -, -, counter⟩ := answers
          change _ + (_ + 1) < _ at unwrapped
          have room : first.before.counter.toNat + 1 < UInt32.size := by omega
          rw [counter, UInt32.toNat_add]
          exact Nat.mod_eq_of_lt room
        | complete code cursor =>
          rw [request] at answers
          simp [answers.1, Request.executes]
        | shutdown restart =>
          rw [request] at answers
          simp [answers.1, Request.executes]
      rw [ih session (by omega), counted]
      omega

end Session

/-! ## From lines to parts -/

/-- Every run over lines of text of which all is written is a session of the requests that count. -/
theorem session_of_all {lines : List Bytes} {k k' : Kernel} {log : List Turn} {d : Relay}
    {result : Except Error Unit}
    (text : ∀ bytes ∈ lines, ∃ text, Utf8.decode bytes = .ok text)
    (run : Beside .absent ((all lines).run.run k) log d (result, k'))
    (written : ∀ turn ∈ log, turn.exchange.unwritten = false) :
    result = .ok () ∧ d = .absent ∧ ∃ parts : List Part, Session k parts k' ∧
      parts.map Part.request = requests lines ∧
      unlogged log = unlogged (parts.flatMap Part.log) := by
  induction lines generalizing k log with
  | nil =>
    obtain ⟨rfl, rfl, same⟩ := run.of_done
    cases same
    exact ⟨rfl, rfl, [], .nil k', rfl, rfl⟩
  | cons bytes rest ih =>
    have textLater : ∀ bytes ∈ rest, ∃ text, Utf8.decode bytes = .ok text :=
      fun bytes mem => text bytes (List.mem_cons_of_mem _ mem)
    cases decodes : request? bytes with
    | none =>
      rw [requests_cons_none decodes]
      obtain ⟨decoded, same⟩ := text bytes List.mem_cons_self
      obtain same | ⟨record, same⟩ := all_cons_none same decodes k rest
      · rw [same] at run
        exact ih textLater run written
      · rw [same] at run
        obtain ⟨_, others, rfl, afterwards⟩ := run.of_ask_absent fun _ => rfl
        have served := ih textLater afterwards fun turn mem =>
          written turn (List.mem_cons_of_mem _ mem)
        exact served
    | some request =>
      rw [requests_cons_some decodes]
      rw [all_cons_some decodes] at run
      obtain ⟨_, later, _, ⟨answered, l⟩, rfl, here, there⟩ := run.of_bind
      have kept := here
      obtain ⟨turns, content, reply, rfl, rfl, rfl, single, answers⟩ := answer_answers here
      cases reply with
      | error e =>
        cases written _ (List.mem_append_left _ (List.mem_append_right _ List.mem_cons_self))
      | ok _ =>
        let part : Part := ⟨request, k, turns, content, l⟩
        have due : part.Answered := ⟨kept, single, answers⟩
        cases served : request.served with
        | finished =>
          rw [Except.map, served] at there
          obtain ⟨rfl, rfl, same⟩ := there.of_done
          cases same
          refine ⟨rfl, rfl, [part], .cons due (.nil _), rfl, ?_⟩
          simp [part, Part.log]
        | more =>
          rw [Except.map, served] at there
          obtain ⟨rfl, rfl, parts, session, requested, done⟩ := ih textLater there
            fun turn mem => written turn (List.mem_append_right _ mem)
          refine ⟨rfl, rfl, part :: parts, .cons due session, ?_, ?_⟩
          · rw [List.map_cons, requested]
          · rw [List.flatMap_cons, unlogged_append part.log, ← done, ← unlogged_append]
            rfl

/-- Two runs in which the same is written and the same calls are made. -/
def Alike (log log' : List Turn) : Prop :=
  output log = output log' ∧ called log = called log'

theorem alike_of_unlogged {log log' : List Turn} (same : unlogged log = unlogged log') :
    Alike log log' := by
  constructor
  · rw [← output_unlogged, same, output_unlogged]
  · rw [← called_unlogged, same, called_unlogged]

/-- The replies of parts are one for each request, in order. -/
theorem replies_parts {parts : List Part} (answered : ∀ part ∈ parts, part.Answered) :
    replies (parts.flatMap Part.log) = parts.map fun part => (part.request.kind, part.content) := by
  induction parts with
  | nil => rfl
  | cons part rest ih =>
    obtain ⟨here, there⟩ := List.forall_mem_cons.mp answered
    have before : replies part.turns = [] := by
      refine List.filterMap_eq_nil_iff.mpr fun turn mem => ?_
      have unreplied := here.single turn mem
      cases request : turn.request with
      | reply kind content => rw [request] at unreplied; cases unreplied
      | _ => rfl
    rw [List.flatMap_cons, replies_append, ih there, Part.log, replies_append, before]
    rfl

/-- The request loop answers the requests that count, and nothing else. If all lines are text and all
that is written is taken, it comes to its end, having written what it would have written, and called
what it would have called, for the lines that count alone, and every run for those has one for all
lines beside it. The requests that count are answered one after the other, each by one reply of its
kind, after everything else that is written for it. The replies to execute requests are numbered on
from the kernel's counter, each result has the number of its reply, whatever came of earlier cells,
and a completion request is answered by `null` exactly where completion is off at that point. -/
theorem all_answered {lines : List Bytes} {k k' : Kernel} {log : List Turn} {d : Relay}
    {result : Except Error Unit}
    (text : ∀ bytes ∈ lines, ∃ text, Utf8.decode bytes = .ok text)
    (run : Beside .absent ((all lines).run.run k) log d (result, k'))
    (written : ∀ turn ∈ log, turn.exchange.unwritten = false)
    (unwrapped : k.counter.toNat + (requests lines).countP Request.executes < UInt32.size) :
    result = .ok () ∧ d = .absent ∧
    (∃ log', Beside .absent ((all (heeded lines)).run.run k) log' .absent (.ok (), k') ∧
      Alike log log') ∧
    (∀ log' d' ending, Beside .absent ((all (heeded lines)).run.run k) log' d' ending →
      ∃ log, Beside .absent ((all lines).run.run k) log d' ending ∧ Alike log log') ∧
    ∃ parts : List Part, Session k parts k' ∧ parts.map Part.request = requests lines ∧
      unlogged log = unlogged (parts.flatMap Part.log) ∧
      replies log = parts.map (fun part => (part.request.kind, part.content)) ∧
      ∀ earlier part later, parts = earlier ++ part :: later →
        match part.request with
        | .execute _ _ =>
          let number := k.counter.toNat + earlier.countP (fun part => part.request.executes) + 1
          part.content.get "execution_count" = .int number ∧
            ∀ result ∈ offeredResults part.turns, result.1.toNat = number
        | .complete _ _ => part.content = .null ↔ part.before.completion.enabled = false
        | .shutdown restart =>
          part.content = .object [("status", .str "ok"), ("restart", .bool restart)] := by
  obtain ⟨rfl, rfl, parts, session, requested, done⟩ := session_of_all text run written
  have replied : replies log = parts.map fun part => (part.request.kind, part.content) := by
    rw [← replies_unlogged, done, replies_unlogged, replies_parts session.answered]
  refine ⟨rfl, rfl, ?_, ?_, parts, session, requested, done, replied, ?_⟩
  · obtain ⟨log', run', same⟩ := (traces_heeded text).mp ⟨log, run, rfl⟩
    exact ⟨log', run', alike_of_unlogged same.symm⟩
  · intro log' d' ending run'
    obtain ⟨log, run, same⟩ := (traces_heeded text).mpr ⟨log', run', rfl⟩
    exact ⟨log, run, alike_of_unlogged same⟩
  · rintro earlier part later rfl
    have counted : k.counter.toNat +
        (earlier ++ part :: later).countP (fun part => part.request.executes) < UInt32.size := by
      rwa [← requested, List.countP_map] at unwrapped
    have before := session.counter_before counted
    have answers := (session.answered part (List.mem_append_right _ List.mem_cons_self)).answers
    cases request : part.request with
    | execute header code =>
      rw [request] at answers
      obtain ⟨reply, -, content, count, numbers, -⟩ := answers
      -- the request itself is one of those that are counted
      have room : part.before.counter.toNat + 1 < UInt32.size := by
        have here : part.request.executes = true := by
          rw [request]
          rfl
        rw [List.countP_append, List.countP_cons, if_pos here] at counted
        omega
      have number : (part.before.counter + 1).toNat = part.before.counter.toNat + 1 := by
        rw [UInt32.toNat_add]
        exact Nat.mod_eq_of_lt room
      rw [before] at number
      refine ⟨?_, fun result mem => ?_⟩
      · rw [content, reply.get_executionCount, count, number]
      · rw [numbers result mem, number]
    | complete code cursor =>
      rw [request] at answers
      exact answers.2
    | shutdown restart =>
      rw [request] at answers
      exact answers.2.2

/-- A blank line, a cell, a line that is no request, a cell again, a completion, the end and a line
after it. -/
def mixedLines : List Bytes :=
  [" ", "\x7b\"msg_type\":\"execute_request\",\"content\":\x7b\"code\":\"y\"\x7d\x7d", "[]",
    "\x7b\"msg_type\":\"execute_request\",\"content\":\x7b\"code\":\"x\"\x7d\x7d",
    "\x7b\"msg_type\":\"complete_request\",\"content\":\x7b\"code\":\"x\",\"cursor_pos\":1\x7d\x7d",
    "\x7b\"msg_type\":\"shutdown_request\"\x7d",
    "\x7b\"msg_type\":\"shutdown_request\"\x7d"].map fun line => line.toUTF8.toList

/-- A cell whose context is lost with the connection. -/
theorem answer_lost : ((answer (.execute .null "y")).run.run default).Gives
    ((default : Kernel).nextCell.submission (TargetLanguage.swift.setContext "null")
        ⟨.error .disconnected, .error .disconnected⟩ ++
      [⟨Host.Request.log (Log.error .kernel
          ("execute_cell: " ++ Error.disconnected.message ++ " (fatal: true)")), ()⟩,
        ⟨Host.Request.broadcast (.notification (.error (.ofTraceback
          (Kernel.internalTraceback "execute_cell" .disconnected)))), .ok ()⟩,
        ⟨Host.Request.reply "execute" (ExecuteReply.error 1 (.ofTraceback
          (Kernel.internalTraceback "execute_cell" .disconnected))).toJson, .ok ()⟩])
    (.ok .more, (default : Kernel).nextCell) := by
  repeat apply Program.Gives.ask
  exact .done _

/-- The cell after it, with a value. -/
theorem answer_value : ((answer (.execute .null "x")).run.run (default : Kernel).nextCell).Gives
    ((default : Kernel).nextCell.nextCell.valueLog ++
      [⟨Host.Request.broadcast (.notification (.textResult 2 "1")), .ok ()⟩,
        ⟨Host.Request.reply "execute" (ExecuteReply.ok 2).toJson, .ok ()⟩])
    (.ok .more, (default : Kernel).nextCell.nextCell) := by
  unfold Kernel.valueLog
  repeat apply Program.Gives.ask
  exact .done _

theorem requests_mixedLines : requests mixedLines =
    [.execute .null "y", .execute .null "x", .complete "x" 1, .shutdown false] := by
  decide +kernel

theorem mixedLines_text : ∀ bytes ∈ mixedLines, ∃ text, Utf8.decode bytes = .ok text := by
  intro bytes mem
  have fine : ∀ bytes ∈ mixedLines, (Utf8.decode bytes).isOk = true := by decide +kernel
  cases decoded : Utf8.decode bytes with
  | ok text => exact ⟨text, rfl⟩
  | error e =>
    have ok := fine bytes mem
    rw [decoded] at ok
    cases ok

/-- These lines leave a trace in which every reply is written. -/
theorem traces_mixedLines :
    ∃ trace, Traces mixedLines default trace .absent (.ok (), (default : Kernel).nextCell.nextCell) ∧
      ∀ turn ∈ trace, turn.exchange.unwritten = false := by
  have complete : ((answer (.complete "x" 1)).run.run (default : Kernel).nextCell.nextCell).Gives
      [⟨Host.Request.reply "complete" .null, .ok ()⟩]
      (.ok .more, (default : Kernel).nextCell.nextCell) := .ask _ _ (.done _)
  have shutdown : ((answer (.shutdown false)).run.run (default : Kernel).nextCell.nextCell).Gives
      [⟨Host.Request.reply "shutdown"
        (.object [("status", .str "ok"), ("restart", .bool false)]), .ok ()⟩]
      (.ok .finished, (default : Kernel).nextCell.nextCell) := .ask _ _ (.done _)
  refine ⟨_,
    (traces_cons_none (by decide +kernel : Utf8.decode _ = .ok [' ']) (by decide +kernel)).mpr <|
    traces_cons_answered (by decide +kernel) answer_lost rfl <|
    (traces_cons_none (by decide +kernel : Utf8.decode _ = .ok ['[', ']'])
      (by decide +kernel)).mpr <|
    traces_cons_answered (by decide +kernel) answer_value rfl <|
    traces_cons_answered (by decide +kernel) complete rfl <|
    traces_cons_answered (by decide +kernel) shutdown rfl ⟨[], .done _ _, rfl⟩, ?_⟩
  decide

/-- All kinds of lines: the second cell has number 2, although the first failed. -/
theorem all_answered_mixed :
    requests mixedLines =
        [.execute .null "y", .execute .null "x", .complete "x" 1, .shutdown false] ∧
    ∃ (log : List Turn) (k : Kernel) (parts : List Part),
      Beside .absent ((all mixedLines).run.run default) log .absent (.ok (), k) ∧
      (∀ turn ∈ log, turn.exchange.unwritten = false) ∧
      (∃ log', Beside .absent ((all (heeded mixedLines)).run.run default) log' .absent (.ok (), k) ∧
        Alike log log') ∧
      Session default parts k ∧
      (replies log).map Prod.fst = ["execute", "execute", "complete", "shutdown"] ∧
      ∃ first second later, parts = first :: second :: later ∧
        second.content.get "execution_count" = .int 2 := by
  obtain ⟨trace, ⟨log, run, rfl⟩, fine⟩ := traces_mixedLines
  have written := written_of_unlogged fine
  obtain ⟨-, -, heard, -, parts, session, requested, -, replied, numbered⟩ :=
    all_answered mixedLines_text run written (by rw [requests_mixedLines]; decide)
  rw [requests_mixedLines] at requested
  have kinds : (replies log).map Prod.fst = ["execute", "execute", "complete", "shutdown"] := by
    have kinds := congrArg (List.map Request.kind) requested
    rw [List.map_map] at kinds
    rw [replied, List.map_map]
    exact kinds
  obtain ⟨first, _, rfl, one, requested⟩ := List.map_eq_cons_iff.mp requested
  obtain ⟨second, later, rfl, two, requested⟩ := List.map_eq_cons_iff.mp requested
  refine ⟨requests_mixedLines, log, _, _, run, written, heard, session, kinds, first, second, later,
    rfl, ?_⟩
  have numbered := numbered [first] second later rfl
  rw [two] at numbered
  have counted : [first].countP (fun part => part.request.executes) = 1 := by
    rw [List.countP_singleton, one]
    rfl
  exact numbered.1.trans (by rw [counted]; rfl)

end NotebookKernel.Serve
