import Mathlib.Logic.Relation
import NotebookKernel.Proofs.Cell.Stages

/-!
The kernel beside its relay and its target.

The target prints whenever it likes, the relay drains from time to time while it polls, and the
kernel runs one cell after the other. A step of the whole is one of these doing one thing:
`Desk.Step` lists them. What a program asks for counts only as its `Effect` on what kernel, relay
and target share. The reads of one drain are bounded by what `unreadOutput` answers; any answer that
is not too small is possible, so a drain may go on reading for as long as the target goes on
printing.
-/

namespace NotebookKernel

/-! ## What an exchange does to what is shared -/

/-- An exchange, as far as captured output and the relay are concerned. -/
inductive Effect where
  /-- Captured text was taken. -/
  | took (text : List Char)
  /-- Captured text was to be taken, in vain. -/
  | failed
  | counted (unread : Nat)
  /-- Text was broadcast as part of a stream. -/
  | sent (text : List Char)
  /-- Text was to be broadcast as part of a stream, in vain. -/
  | unsent
  | started
  | stopped
  | locked (printed : Bool)
  | unlocked (printed : Bool)
  | other
  deriving DecidableEq

/-- The effect of an exchange. -/
def Exchange.effect : Exchange Host → Effect
  | ⟨.debugger (.takeOutput _), .ok text⟩ => .took text.toList
  | ⟨.debugger (.takeOutput _), .error _⟩ => .failed
  | ⟨.debugger .unreadOutput, unread⟩ => .counted unread
  | ⟨.broadcast (.notification (.stream _ text)), .ok ()⟩ => .sent text.toList
  | ⟨.broadcast (.notification (.stream _ _)), .error _⟩ => .unsent
  | ⟨.startPolling, .ok ()⟩ => .started
  | ⟨.stopPolling, ()⟩ => .stopped
  | ⟨.takeGuard, printed⟩ => .locked printed
  | ⟨.releaseGuard printed, ()⟩ => .unlocked printed
  | _ => .other

/-- What kernel, relay and target share. -/
structure Shared where
  /-- Output that was printed and not yet taken. -/
  captured : List Char
  polling : Bool
  guarded : Bool
  /-- The relay's memory of output. -/
  printed : Bool

/-- What an exchange with a given effect does. A read that succeeds takes a beginning of what is
captured, and something if there is anything; one that fails takes nothing. Polling stops only when
no drain of the relay is under way, and the guard is taken only when it is free. -/
def Shared.Answers (s : Shared) (draining : Bool) : Effect → Shared → Prop
  | .took text, t =>
    s.captured = text ++ t.captured ∧ (s.captured ≠ [] → text ≠ []) ∧
      t = { s with captured := t.captured }
  | .counted unread, t => s.captured.length ≤ unread ∧ t = s
  | .started, t => t = { s with polling := true, printed := false }
  | .stopped, t => draining = false ∧ t = { s with polling := false }
  | .locked printed, t =>
    s.guarded = false ∧ printed = s.printed ∧ t = { s with guarded := true }
  | .unlocked printed, t => t = { s with guarded := false, printed }
  | _, t => t = s

/-! ## Steps -/

/-- What the kernel is doing. -/
inductive KernelThread where
  /-- Nothing, after a cell if there was one. -/
  | idle (last : Option CellStage.Ending)
  | within (stage : CellStage) (rest : Act stage.Result)

/-- Who takes part in an exchange. -/
inductive Party where
  | kernel (stage : CellStage)
  | relay

/-- Something that happened. -/
inductive Event where
  /-- The target printed. -/
  | printed (text : List Char)
  /-- A cell began. -/
  | began
  | exchanged (party : Party) (exchange : Exchange Host)

/-- Kernel, relay and target at one moment. -/
structure Desk where
  thread : KernelThread
  /-- What a drain of the relay that is under way has still to do. -/
  drain : Option (Act Bool)
  shared : Shared
  /-- What has happened, the latest first. -/
  history : List Event

namespace Desk

/-- Before the first cell. -/
def initial : Desk where
  thread := .idle none
  drain := none
  shared := { captured := [], polling := false, guarded := false, printed := false }
  history := []

/-- One of them does one thing. -/
inductive Step : Desk → Desk → Prop
  /-- The target prints. -/
  | print {c : Desk} (text : List Char) :
    Step c { c with
      shared := { c.shared with captured := c.shared.captured ++ text }
      history := .printed text :: c.history }
  /-- A cell begins. -/
  | begin {c : Desk} {last : Option CellStage.Ending} (k : Kernel) (source : String)
      (parent : Json) :
    c.thread = .idle last →
      Step c { c with
        thread :=
          .within (.announcing k source parent) (CellStage.announcing k source parent).program
        history := .began :: c.history }
  /-- The kernel takes part in an exchange. -/
  | exchange {c : Desk} {stage : CellStage} {r : Host.Request}
      {next : Host.Answer r → Act stage.Result} (answer : Host.Answer r) (t : Shared) :
    c.thread = .within stage (.ask r next) →
      c.shared.Answers c.drain.isSome (Exchange.effect ⟨r, answer⟩) t →
      Step c { c with
        thread := .within stage (next answer)
        shared := t
        history := .exchanged (.kernel stage) ⟨r, answer⟩ :: c.history }
  /-- The kernel goes on to the next stage. -/
  | advance {c : Desk} {stage later : CellStage} {result : stage.Result} :
    c.thread = .within stage (.done result) → stage.next result = .inl later →
      Step c { c with thread := .within later later.program }
  /-- The cell returns. -/
  | finish {c : Desk} {stage : CellStage} {result : stage.Result} {ending : CellStage.Ending} :
    c.thread = .within stage (.done result) → stage.next result = .inr ending →
      Step c { c with thread := .idle (some ending) }
  /-- The relay begins to drain. -/
  | poll {c : Desk} (chunk : Nat) :
    c.shared.polling = true → c.drain = none →
      Step c { c with drain := some (Streaming.drain chunk) }
  /-- The relay takes part in an exchange. -/
  | relayExchange {c : Desk} {r : Host.Request} {next : Host.Answer r → Act Bool}
      (answer : Host.Answer r) (t : Shared) :
    c.drain = some (.ask r next) →
      c.shared.Answers true (Exchange.effect ⟨r, answer⟩) t →
      Step c { c with
        drain := some (next answer)
        shared := t
        history := .exchanged .relay ⟨r, answer⟩ :: c.history }
  /-- The relay has drained. -/
  | rest {c : Desk} {printed : Bool} :
    c.drain = some (.done printed) → Step c { c with drain := none }

/-- What kernel, relay and target may come to. -/
def Reachable (c : Desk) : Prop :=
  Relation.ReflTransGen Step initial c

end Desk

/-- Answers that follow one another, and what they lead to. -/
inductive Shared.AnswersAll : Shared → List (Exchange Host) → Shared → Prop
  | nil (s : Shared) : AnswersAll s [] s
  | cons {s t u : Shared} {exchange : Exchange Host} {log : List (Exchange Host)} :
    s.Answers false exchange.effect t → AnswersAll t log u → AnswersAll s (exchange :: log) u

/-- The kernel may run a part of a stage while nothing else happens. -/
theorem Desk.Reachable.alone {c : Desk} (reach : c.Reachable) {stage : CellStage}
    {p : Act stage.Result} {log : List (Exchange Host)} {result : stage.Result} {t : Shared}
    (within : c.thread = .within stage p) (resting : c.drain = none) (gives : p.Gives log result)
    (answered : c.shared.AnswersAll log t) :
    Desk.Reachable { c with
      thread := .within stage (.done result)
      shared := t
      history := (log.map (.exchanged (.kernel stage))).reverse ++ c.history } := by
  induction gives generalizing c with
  | done a =>
    cases answered
    rw [← within]
    exact reach
  | ask r answer _ ih =>
    obtain ⟨⟩ | ⟨first, later⟩ := answered
    have next := reach.tail (.exchange answer _ within (by rw [resting]; exact first))
    simpa using ih next rfl resting later

/-- And go on to the next one. -/
theorem Desk.Reachable.passes {c : Desk} (reach : c.Reachable) {stage later : CellStage}
    {log : List (Exchange Host)} {result : stage.Result} {t : Shared}
    (within : c.thread = .within stage stage.program) (resting : c.drain = none)
    (gives : stage.program.Gives log result) (answered : c.shared.AnswersAll log t)
    (next : stage.next result = .inl later) :
    Desk.Reachable { c with
      thread := .within later later.program
      shared := t
      history := (log.map (.exchanged (.kernel stage))).reverse ++ c.history } :=
  (reach.alone within resting gives answered).tail (.advance rfl next)

/-- Or return after the last. -/
theorem Desk.Reachable.returns {c : Desk} (reach : c.Reachable) {stage : CellStage}
    {log : List (Exchange Host)} {result : stage.Result} {t : Shared} {ending : CellStage.Ending}
    (within : c.thread = .within stage stage.program) (resting : c.drain = none)
    (gives : stage.program.Gives log result) (answered : c.shared.AnswersAll log t)
    (next : stage.next result = .inr ending) :
    Desk.Reachable { c with
      thread := .idle (some ending)
      shared := t
      history := (log.map (.exchanged (.kernel stage))).reverse ++ c.history } :=
  (reach.alone within resting gives answered).tail (.finish rfl next)

/-! ## What a history tells -/

namespace CellStage

/-- What a stage has to do with the relay: nothing, a drain, or to start or stop it. -/
inductive Role where
  | bystander
  | draining
  | owning
  deriving DecidableEq

def role : CellStage → Role
  | starting .. | stopping .. => .owning
  | flushing .. => .draining
  | _ => .bystander

end CellStage

/-- The part of the relay that someone plays. -/
def Party.role : Party → CellStage.Role
  | kernel stage => stage.role
  | relay => .draining

namespace Event

/-- What the target printed. -/
def output : Event → List Char
  | printed text => text
  | _ => []

/-- The effect of what a drain does. -/
def drained : Event → Effect
  | exchanged party exchange => if party.role = .bystander then .other else exchange.effect
  | _ => .other

end Event

/-- Everything the target printed. -/
def printed : List Event → List Char
  | [] => []
  | event :: earlier => printed earlier ++ event.output

/-- Everything that drains broadcast. -/
def relayed : List Event → List Char
  | [] => []
  | event :: earlier =>
    match event.drained with
    | .sent text => relayed earlier ++ text
    | _ => relayed earlier

/-- What a drain has taken and not yet broadcast. -/
def inHand : List Event → List Char
  | [] => []
  | event :: earlier =>
    match event.drained with
    | .took text => inHand earlier ++ text
    | .sent _ | .unsent => []
    | _ => inHand earlier

/-- The relay of the latest cell. -/
inductive RelayTrace where
  | absent
  | polling
  /-- It was told to stop, and its final drain has not begun to read. -/
  | stopped
  /-- What happened before its final drain began to read and since then, the latest first. -/
  | sweeping (before since : List Event)

namespace RelayTrace

/-- Something else happened. -/
def later (event : Event) : RelayTrace → RelayTrace
  | sweeping before since => sweeping before (event :: since)
  | trace => trace

/-- A drain began to read. -/
def counted (earlier : List Event) (event : Event) : RelayTrace → RelayTrace
  | stopped => sweeping earlier []
  | trace => trace.later event

/-- The relay of the latest cell, as a history has it. -/
def of : List Event → RelayTrace
  | [] => absent
  | .began :: _ => absent
  | event :: earlier =>
    match event.drained with
    | .started => polling
    | .stopped => stopped
    | .counted _ => (of earlier).counted earlier event
    | _ => (of earlier).later event

end RelayTrace

end NotebookKernel
