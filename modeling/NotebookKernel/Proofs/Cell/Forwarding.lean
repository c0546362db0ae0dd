import Mathlib.Data.List.Forall2
import NotebookKernel.Proofs.Cell.Settled

/-!
Display messages are forwarded in the order of the queue.

The target answers with the payloads of its queue, in order. Each of them is read, one after the
other; what can be read is a message, what cannot is skipped with a warning. Then the messages are
offered to the channel, and `QueuedMessage.publish_gives` says in which order: that of the queue.
-/

namespace NotebookKernel

/-- The parts of a message for display. -/
def Broadcast.parts? : Broadcast → Option QueuedMessage
  | parts message => some message
  | _ => none

/-- The messages that the channel is offered through exchanges; it may take them or not. -/
def offered (log : List (Exchange Host)) : List Broadcast :=
  log.filterMap fun exchange => exchange.request.message?

section Offered

variable {log first second : List (Exchange Host)}

theorem offered_append : offered (first ++ second) = offered first ++ offered second :=
  List.filterMap_append

/-- A program that broadcasts nothing offers nothing. -/
theorem offered_eq_nil {α : Type} {p : Act α} {a : α} (run : p.Gives log a)
    (asks : p.Asks fun r : Host.Request => r.message? = none) : offered log = [] :=
  List.filterMap_eq_nil_iff.mpr (run.requests asks)

/-- A message that is sent is offered once, whether it is taken or not. -/
theorem Act.broadcastOrWarn_offers {area : Log.Area} {complaint : String} {m : Broadcast}
    (run : (broadcastOrWarn area complaint m).Gives log ()) : offered log = [m] := by
  obtain ⟨answer, _, rfl, answered⟩ := run.of_ask
  cases answer with
  | ok _ =>
    obtain ⟨rfl, -⟩ := answered.of_done
    rfl
  | error e =>
    obtain ⟨_, _, rfl, warned⟩ := answered.of_ask
    obtain ⟨rfl, -⟩ := warned.of_done
    rfl

end Offered

namespace QueuedMessage

/-- An attempt to read a payload of the queue: its exchanges, and what came of it. -/
structure Attempt where
  exchanges : List (Exchange Host)
  result : Except Error QueuedMessage

/-- An attempt and, if it failed, the warning. -/
def Attempt.log (attempt : Attempt) : List (Exchange Host) :=
  match attempt.result with
  | .ok _ => attempt.exchanges
  | .error e => attempt.exchanges ++
    [⟨Host.Request.log (Log.warn .kernel ("skip display message: " ++ e.message)), ()⟩]

/-- The queue of the target is emptied by `log`, and `messages` are forwarded in its order. If the
target gives a queue and tells its payloads, they are read one after the other, and the messages are
those that could be read. Otherwise there are none. -/
def InQueueOrder (k : Kernel) (log : List (Exchange Host)) (messages : List QueuedMessage) : Prop :=
  offered log = messages.map .parts ∧
  ∃ (r : Reaction) (rest sending : List (Exchange Host)),
    log = k.submission k.language.takeQueue r ++ rest ++ sending ∧
      ((∃ (queue : ShownValue) (payloads : List Handle) (attempts : List Attempt),
          r.outcome = .ok (.gave queue) ∧
          rest = ⟨Host.Request.debugger (.children queue.handle), .ok payloads⟩ ::
            attempts.flatMap Attempt.log ∧
          List.Forall₂ (fun payload attempt =>
            (read k.session payload).run.Gives attempt.exchanges attempt.result)
            payloads attempts ∧
          messages = attempts.filterMap fun attempt => attempt.result.toOption) ∨
        messages = [] ∧ ∀ (queue : ShownValue) (payloads : List Handle),
          r.outcome = .ok (.gave queue) →
            ⟨Host.Request.debugger (.children queue.handle), .ok payloads⟩ ∉ rest)

/-- Messages are offered as they are, in order. -/
theorem broadcastAll_gives {messages : List QueuedMessage} {log : List (Exchange Host)}
    (run : (broadcastAll messages).Gives log ()) : offered log = messages.map .parts := by
  induction messages generalizing log with
  | nil =>
    obtain ⟨rfl, -⟩ := run.of_done
    rfl
  | cons message rest ih =>
    obtain ⟨first, second, _, rfl, sent, later⟩ := Program.Gives.of_bind run
    rw [offered_append, Act.broadcastOrWarn_offers sent, ih later]
    rfl

/-- The messages can be read off. -/
theorem InQueueOrder.displayed {k : Kernel} {log : List (Exchange Host)}
    {messages : List QueuedMessage} (order : InQueueOrder k log messages) :
    (log.filterMap fun exchange => exchange.request.message?.bind Broadcast.parts?) = messages := by
  have read := congrArg (List.filterMap Broadcast.parts?) order.1
  rw [offered, List.filterMap_filterMap, List.filterMap_map] at read
  rw [read]
  exact List.filterMap_some

/-- Payloads are read one after the other, and what cannot be read is skipped. -/
theorem readAll_gives {s : Session} {payloads : List Handle} {log : List (Exchange Host)}
    {messages : List QueuedMessage} (run : (readAll s payloads).Gives log messages) :
    ∃ attempts : List Attempt, log = attempts.flatMap Attempt.log ∧
      List.Forall₂ (fun payload attempt =>
        (read s payload).run.Gives attempt.exchanges attempt.result) payloads attempts ∧
      messages = attempts.filterMap fun attempt => attempt.result.toOption := by
  induction payloads generalizing log messages with
  | nil =>
    obtain ⟨rfl, rfl⟩ := run.of_done
    exact ⟨[], rfl, .nil, rfl⟩
  | cons payload rest ih =>
    obtain ⟨first, second, result, rfl, tried, later⟩ := Program.Gives.of_bind run
    cases result with
    | ok message =>
      obtain ⟨others, none, _, rfl, read, done⟩ := Program.Gives.of_bind later
      obtain ⟨rfl, rfl⟩ := done.of_done
      obtain ⟨attempts, rfl, all, rfl⟩ := ih read
      refine ⟨⟨first, .ok message⟩ :: attempts, ?_, .cons tried all, rfl⟩
      rw [List.append_nil]
      rfl
    | error e =>
      obtain ⟨_, others, rfl, read⟩ := later.of_ask
      obtain ⟨attempts, rfl, all, rfl⟩ := ih read
      refine ⟨⟨first, .error e⟩ :: attempts, ?_, .cons tried all, rfl⟩
      rw [List.flatMap_cons, Attempt.log, List.append_assoc]
      rfl

/-- Emptying the queue and broadcasting its messages keeps its order. -/
theorem publish_gives {k : Kernel} {log : List (Exchange Host)} (run : (publish k).Gives log ()) :
    ∃ messages, InQueueOrder k log messages := by
  obtain ⟨first, sending, messages, rfl, drained, sent⟩ := Program.Gives.of_bind run
  have quiet : offered first = [] := by
    refine offered_eq_nil drained (drain_asks (fun r submits => ?_) (fun r inspects => ?_) k)
    · cases r <;> first | rfl | cases submits
    · cases r <;> first | rfl | cases inspects
  refine ⟨messages, ?_, ?_⟩
  · rw [offered_append, quiet, broadcastAll_gives sent]
    rfl
  obtain ⟨r, rest, rfl, given⟩ := drain_gives drained
  refine ⟨r, rest, sending, rfl, ?_⟩
  rcases given with ⟨queue, gave, read⟩ | ⟨nothing, none, -⟩
  · obtain ⟨answer, reading, rfl, listed⟩ := read.of_ask
    cases answer with
    | ok payloads =>
      obtain ⟨attempts, rfl, all, rfl⟩ := readAll_gives listed
      exact .inl ⟨queue, payloads, attempts, gave, rfl, all, rfl⟩
    | error e =>
      obtain ⟨_, _, rfl, done⟩ := listed.of_ask
      obtain ⟨rfl, none⟩ := done.of_done
      refine .inr ⟨none, fun other payloads same told => ?_⟩
      obtain ⟨rfl⟩ : queue = other := by simpa using gave.symm.trans same
      simp at told
  · exact .inr ⟨none, fun queue _ gave => absurd gave (nothing queue)⟩

end QueuedMessage

end NotebookKernel
