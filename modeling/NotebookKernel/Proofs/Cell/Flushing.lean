import NotebookKernel.Proofs.Cell.Windows

/-!
The flush of a cell broadcasts what was printed before it.

A flush counts what is captured and then reads until it has taken that much, under the guard that
keeps the relay from reading. `Desk.Owes` follows a text that was printed before: while the flush
reads, no more of it is missing among what was broadcast than is in hand or still due, and when the
cell has gone on nothing is.
-/

namespace NotebookKernel

/-! ## What is due of a text -/

theorem relayed_cons_prefix (event : Event) (history : List Event) :
    relayed history <+: relayed (event :: history) := by
  rw [relayed]
  split
  · exact List.prefix_append _ _
  · exact List.prefix_rfl

/-- What is due does not matter for the rest that is held. -/
theorem Hold.after_due (h : Hold) (due : Option Nat) (role : CellStage.Role) (effect : Effect) :
    { h with due }.after role effect =
      { h.after role effect with due := ({ h with due }.after role effect).due } := by
  cases effect with
  | sent | unsent => by_cases bystander : role = .bystander <;> simp [Hold.after, bystander]
  | _ => rfl

/-! ## From the evaluation to the end of the flush -/

/-- How far a text has come that was printed before a flush. -/
def KernelThread.Owes (mark : List Char) (history : List Event) (own : Hold) : KernelThread → Prop
  | .within (.flushing _ _) rest => ∃ due,
    rest.Keeps (Hold.rules .draining) { own with due } (fun t _ => t.due = some 0) ∧
      Owed mark history { own with due }
  | .within (.publishing _ _) _ | .within (.stopping _ (.ok _)) _ => mark <+: relayed history
  | _ => True

/-- It comes no less far by what others do. -/
theorem KernelThread.Owes.cons {mark : List Char} {history : List Event} {own : Hold}
    {thread : KernelThread} (owes : thread.Owes mark history own) (event : Event) :
    thread.Owes mark (event :: history) own := by
  have longer := relayed_cons_prefix event history
  cases thread with
  | idle last => trivial
  | within stage rest =>
    cases stage with
    | flushing k result =>
      rcases owes with ⟨due, keeps, owed⟩
      refine ⟨due, keeps, fun n none => ?_⟩
      have := owed n none
      have := longer.length_le
      omega
    | publishing k result => exact List.IsPrefix.trans owes longer
    | stopping k outcome =>
      cases outcome with
      | error e => trivial
      | ok result => exact List.IsPrefix.trans owes longer
    | _ => trivial

namespace Desk

/-- A text was printed before any flush that is under way began, and has been broadcast if one was
made. -/
structure Owes (mark : List Char) (c : Desk) (own : Hold) : Prop where
  before : mark <+: printed c.history
  thread : c.thread.Owes mark c.history own

variable {mark : List Char} {c : Desk} {own relay : Hold}

/-- When nothing is due and nothing in hand, the whole text has been broadcast. -/
theorem Kept.all_of_owed (kept : c.Kept own relay) (sent : Sent c.history) (free : own.Free)
    (before : mark <+: printed c.history) {due : Option Nat} (none : due = some 0)
    (owed : Owed mark c.history { own with due }) : mark <+: relayed c.history := by
  have all : relayed c.history <+: printed c.history := by
    rw [← kept.balance sent, List.append_assoc]
    exact List.prefix_append _ _
  apply List.prefix_of_prefix_length_le before all
  have enough := owed 0 none
  rw [free.2] at enough
  exact enough

/-- At its end a flush has broadcast the whole text. -/
theorem Owes.flushed (owes : c.Owes mark own) (kept : c.Kept own relay) (sent : Sent c.history)
    {k : Kernel} {result : Outcome} {had : Bool}
    (within : c.thread = .within (.flushing k result) (.done had)) :
    mark <+: relayed c.history := by
  have thread := kept.thread
  have due := owes.thread
  rw [within] at thread due
  rcases due with ⟨due, none, owed⟩
  exact kept.all_of_owed sent thread.1.1 owes.before none owed

theorem Owes.exchange (owes : c.Owes mark own) (kept : c.Kept own relay) {stage : CellStage}
    {r : Host.Request} {next : Host.Answer r → Act stage.Result} {answer : Host.Answer r}
    {t : Shared} (within : c.thread = .within stage (.ask r next))
    (answered : c.shared.Answers c.drain.isSome (Exchange.effect ⟨r, answer⟩) t)
    (sent : Sent (.exchanged (.kernel stage) ⟨r, answer⟩ :: c.history))
    (read : Unfailed (.exchanged (.kernel stage) ⟨r, answer⟩ :: c.history)) :
    Owes mark { c with
      thread := .within stage (next answer)
      shared := t
      history := .exchanged (.kernel stage) ⟨r, answer⟩ :: c.history }
      (own.after stage.role (Exchange.effect ⟨r, answer⟩)) := by
  have before : mark <+: printed (.exchanged (.kernel stage) ⟨r, answer⟩ :: c.history) := by
    rw [printed_of_exchange rfl]
    exact owes.before
  refine ⟨before, ?_⟩
  have thread := owes.thread
  rw [within] at thread
  have longer := relayed_cons_prefix (.exchanged (.kernel stage) ⟨r, answer⟩) c.history
  cases stage with
  | flushing k result =>
    rcases thread with ⟨due, keeps, owed⟩
    rcases keeps answer with ⟨allowed, later⟩
    refine ⟨({ own with due }.after .draining (Exchange.effect ⟨r, answer⟩)).due, ?_⟩
    rw [show CellStage.role (.flushing k result) = .draining from rfl, ← Hold.after_due]
    refine ⟨later, ?_⟩
    exact Owed.after (.inl owed) owes.before rfl (by decide) allowed answered
      (fun alone => kept.locks.relay_text alone) kept.hand (sent _ List.mem_cons_self)
      (read _ List.mem_cons_self) (kept.balance sent.earlier)
  | publishing k result => exact thread.trans longer
  | stopping k outcome =>
    cases outcome with
    | error e => trivial
    | ok result => exact thread.trans longer
  | _ => trivial

theorem Owes.advance (owes : c.Owes mark own) (kept : c.Kept own relay) (sent : Sent c.history)
    {stage later : CellStage} {result : stage.Result}
    (within : c.thread = .within stage (.done result)) (next : stage.next result = .inl later) :
    Owes mark { c with thread := .within later later.program } own := by
  refine ⟨owes.before, ?_⟩
  have thread := owes.thread
  rw [within] at thread
  cases stage with
  | announcing k source parent =>
    cases result with
    | error e => cases next
    | ok _ =>
      cases next
      trivial
  | expanding k source =>
    rcases result with ⟨result, k⟩
    cases result with
    | error e => cases next
    | ok code =>
      cases next
      trivial
  | starting k code =>
    cases result with
    | error e => cases next
    | ok _ =>
      cases next
      trivial
  | executing k code =>
    cases result with
    | error e =>
      cases next
      trivial
    | ok result =>
      cases next
      have holds := kept.thread
      rw [within] at holds
      have free : own.Free := holds.2 rfl
      refine ⟨none, ?_, fun n due => nomatch due⟩
      have drains : CellStage.Role.draining ≠ .bystander := fun same => nomatch same
      have keeps := Streaming.drain_keeps k.chunkSize drains (h := { own with due := none }) free
      apply keeps.imp
      intro t _ same
      rw [same]
      rfl
  | flushing k result =>
    have all := owes.flushed kept sent within
    rw [CellStage.next] at next
    split at next <;> cases next <;> exact all
  | publishing k result =>
    cases next
    exact thread
  | stopping k outcome => cases next

/-- Every step keeps it while broadcasts and reads succeed. -/
theorem Owes.step (owes : c.Owes mark own) (kept : c.Kept own relay) {d : Desk} (step : Step c d)
    (sent : Sent d.history) (read : Unfailed d.history) :
    ∃ own relay, d.Kept own relay ∧ d.Owes mark own := by
  cases step with
  | print text =>
    exact ⟨_, _, kept.print text, owes.before.trans (List.prefix_append _ _), owes.thread.cons _⟩
  | begin k source parent idle =>
    refine ⟨_, _, kept.begin idle k source parent, ?_, trivial⟩
    rw [printed_of_exchange rfl]
    exact owes.before
  | exchange answer t within answered =>
    exact ⟨_, _, kept.exchange within answered, owes.exchange kept within answered sent read⟩
  | advance within next =>
    exact ⟨_, _, kept.advance within next, owes.advance kept sent within next⟩
  | finish within next => exact ⟨_, _, kept.finish within next, owes.before, trivial⟩
  | poll chunk polling resting =>
    exact ⟨_, _, kept.poll chunk polling resting, owes.before, owes.thread⟩
  | @relayExchange r next answer t underWay answered =>
    refine ⟨_, _, kept.relayExchange underWay answered, ?_, owes.thread.cons _⟩
    rw [printed_of_exchange rfl]
    exact owes.before
  | rest ended => exact ⟨_, _, kept.rest ended, owes.before, owes.thread⟩

theorem Step.suffix {d : Desk} (step : Step c d) : c.history <:+ d.history := by
  cases step with
  | advance | finish | poll | rest => exact List.suffix_rfl
  | _ => exact List.suffix_cons _ _

/-- Every step keeps account of a text while broadcasts and reads succeed, so every run does. -/
theorem Owes.run {mark : List Char} {own relay : Hold} {d : Desk}
    (owes : c.Owes mark own) (kept : c.Kept own relay) (run : Relation.ReflTransGen Step c d)
    (sent : Sent d.history) (read : Unfailed d.history) :
    ∃ own relay, d.Kept own relay ∧ d.Owes mark own := by
  induction run with
  | refl => exact ⟨own, relay, kept, owes⟩
  | tail run step ih =>
    have sentBefore := fun event mem => sent event (step.suffix.subset mem)
    have readBefore := fun event mem => read event (step.suffix.subset mem)
    obtain ⟨own, relay, kept, owes⟩ := ih sentBefore readBefore
    exact owes.step kept step sent read

end Desk

end NotebookKernel
