import NotebookKernel.Proofs.Cell.Order

/-!
What a cell has published when it is reported.

When a cell has returned its relay is gone, and only then does the kernel report what came of the
cell. `Desk.Concluded` says what the report finds published, `Desk.Reachable.publication_ordered`
that it does, and that every event before it came in order.
-/

namespace NotebookKernel

namespace Event

/-- The target printed, or the kernel was stopping the relay. -/
def untilEnd : Event → Prop
  | printed _ => True
  | exchanged (.kernel (.stopping _ _)) _ => True
  | _ => False

end Event

/-- The messages for display that were offered in the latest cell, the first one first. -/
def displayed (history : List Event) : List QueuedMessage :=
  ((thisCell history).filterMap fun event => event.message?.bind Broadcast.parts?).reverse

/-- A cell came to a success. -/
def Succeeds (outcome : Except Error CellResult) : Prop :=
  ∃ result, outcome = .ok result ∧ result.result.succeeded = true

theorem not_succeeds {outcome : Except Error CellResult}
    (failed : ∀ result, outcome = .ok result → result.result.succeeded = false) :
    ¬ Succeeds outcome := by
  rintro ⟨result, same, success⟩
  rw [failed result same] at success
  cases success

/-- What the report of a cell finds done. -/
structure Desk.Concluded (c : Desk) (outcome : Except Error CellResult) (k' : Kernel) : Prop where
  /-- What the kernel did in the cell and the report make up the answer to it. The report offers no
  message for display. -/
  reply : ∃ k source parent, ∀ closing reply, (k'.report outcome).Gives closing reply →
    ((Kernel.answerCell source parent).run k).Gives ((deeds c.history).map Prod.snd ++ closing)
        (reply, k') ∧
      ∀ m ∈ offered closing, m.parts? = none
  /-- No result and no error was offered before. -/
  unreported : ∀ event ∈ c.history, ∀ m, event.message? = some m →
    m.result? = none ∧ m.error? = none
  /-- After a success the queue was emptied and its messages were offered in its order. -/
  forwarded : Succeeds outcome → ∃ log, log <:+: (deeds c.history).map Prod.snd ∧
    QueuedMessage.InQueueOrder k' log (displayed c.history)
  undisplayed : ¬ Succeeds outcome → displayed c.history = []
  /-- If there was a relay, all that was printed before its final drain began to read has been
  broadcast, and that was after everything else that happened in the cell. If there was none, the
  cell was not evaluated. -/
  swept : match RelayTrace.of c.history with
    | .absent => ∀ event ∈ thisCell c.history, event.untilStart
    | .sweeping before since =>
      printed before <+: relayed c.history ∧ ∀ event ∈ since, event.untilEnd
    | _ => False
  /-- The relay is gone. -/
  gone : c.drain = none ∧ c.shared.polling = false

namespace Desk

variable {c : Desk}

/-! ## Messages for display -/

/-- The kernel alone displays messages. -/
theorem Reachable.displayed_eq (reach : c.Reachable) : displayed c.history =
    (deeds c.history).filterMap fun deed => deed.2.request.message?.bind Broadcast.parts? := by
  rw [displayed, deeds, List.filterMap_reverse, List.filterMap_filterMap]
  congr 1
  refine List.filterMap_congr fun event mem => ?_
  cases event with
  | exchanged party exchange =>
    cases party with
    | kernel stage => rfl
    | relay =>
      obtain ⟨since, earlier, split, -⟩ := exists_append_of_mem mem
      have drains := reach.drains ⟨since, split.symm⟩
      obtain ⟨r, answer⟩ := exchange
      cases r with
      | broadcast m =>
        cases m with
        | parts _ => cases drains
        | notification n => rfl
      | _ => rfl
  | _ => rfl

/-- Only one stage does. -/
theorem Reachable.undisplayed (reach : c.Reachable) {deed : CellStage × Exchange Host}
    (mem : deed ∈ deeds c.history) (other : deed.1.left ≠ 1) :
    deed.2.request.message?.bind Broadcast.parts? = none := by
  obtain ⟨stage, r, answer⟩ := deed
  cases r with
  | broadcast m =>
    cases m with
    | notification n => rfl
    | parts parts =>
      obtain ⟨since, earlier, split, -⟩ := exists_append_of_mem (mem_deeds.mp mem)
      obtain ⟨k, result, rfl⟩ := (reach.mayAsk ⟨since, split.symm⟩).of_parts
      exact absurd rfl other
  | _ => rfl

/-- So what the other stages did displays nothing. -/
theorem Reachable.displays_nothing (reach : c.Reachable) {log : List (CellStage × Exchange Host)}
    (within : ∀ deed ∈ log, deed ∈ deeds c.history) (other : ∀ deed ∈ log, deed.1.left ≠ 1) :
    log.filterMap (fun deed => deed.2.request.message?.bind Broadcast.parts?) = [] :=
  List.filterMap_eq_nil_iff.mpr fun deed mem =>
    reach.undisplayed (within deed mem) (other deed mem)

/-! ## The end of a cell -/

section Idle

variable {outcome : Except Error CellResult} {k' : Kernel}

/-- What the kernel did in a cell and the report make up the answer to it. -/
theorem Reachable.reply_of_idle (reach : c.Reachable)
    (idle : c.thread = .idle (some (outcome, k'))) :
    ∃ k source parent, ∀ closing reply, (k'.report outcome).Gives closing reply →
      ((Kernel.answerCell source parent).run k).Gives ((deeds c.history).map Prod.snd ++ closing)
          (reply, k') ∧
        ∀ m ∈ offered closing, m.parts? = none := by
  obtain ⟨k, source, parent, course⟩ := reach.course
  rw [idle] at course
  refine ⟨k, source, parent, fun closing reply report => ⟨?_, fun m mem => ?_⟩⟩
  · rw [Kernel.answerCell_eq, ← CellStage.whole_announcing]
    refine course.whole_gives.bind ?_
    have reported := report.bind (f := fun reply => .done (reply, k')) (.done _)
    rwa [List.append_nil] at reported
  · have asks : (k'.report outcome).Asks fun r : Host.Request =>
        ∀ m, r.message? = some m → m.parts? = none := by
      refine Kernel.report_asks_of (fun n => ?_) (fun _ => nofun) (fun _ => nofun) k' outcome
      rintro _ ⟨⟩
      rfl
    obtain ⟨exchange, mem, offers⟩ := List.mem_filterMap.mp mem
    exact report.requests asks exchange mem m offers

/-- Nothing in a cell publishes a result or an error. -/
theorem Reachable.unreported (reach : c.Reachable) {event : Event} (mem : event ∈ c.history)
    {m : Broadcast} (offered : event.message? = some m) : m.result? = none ∧ m.error? = none := by
  obtain ⟨since, earlier, split⟩ := List.append_of_mem mem
  cases event with
  | exchanged party exchange =>
    have inCell : exchange.request.InCell := by
      cases party with
      | kernel stage => exact (reach.mayAsk ⟨since, split.symm⟩).inCell
      | relay => exact .drains (reach.drains ⟨since, split.symm⟩)
    obtain ⟨r, answer⟩ := exchange
    cases r with
    | broadcast n =>
      cases offered
      exact inCell.neither
    | _ => cases offered
  | _ => cases offered

/-- The messages of a cell that came to a success are those of its queue. -/
theorem Reachable.displayed_of_idle (reach : c.Reachable)
    (idle : c.thread = .idle (some (outcome, k'))) :
    (Succeeds outcome → ∃ log, log <:+: (deeds c.history).map Prod.snd ∧
        QueuedMessage.InQueueOrder k' log (displayed c.history)) ∧
      (¬ Succeeds outcome → displayed c.history = []) := by
  obtain ⟨k, source, parent, course⟩ := reach.course
  rw [idle] at course
  have unpublished : (∀ result, outcome = .ok result → result.result.succeeded = false) →
      (∀ deed ∈ deeds c.history, deed.1.left ≠ 1) →
      (Succeeds outcome → ∃ log, log <:+: (deeds c.history).map Prod.snd ∧
        QueuedMessage.InQueueOrder k' log (displayed c.history)) ∧
      (¬ Succeeds outcome → displayed c.history = []) := by
    intro failed other
    refine ⟨fun success => absurd success (not_succeeds failed), fun _ => ?_⟩
    rw [reach.displayed_eq, reach.displays_nothing (fun _ mem => mem) other]
  rcases course.ended with ⟨early, failed⟩ | ⟨earlier, stops, had, made, passed, -⟩
  · exact unpublished failed fun deed mem same => by
      have := early deed mem
      omega
  have stopping : ∀ deed ∈ stops.map (CellStage.stopping k' outcome, ·), deed.1.left ≠ 1 := by
    intro deed mem
    obtain ⟨exchange, -, rfl⟩ := List.mem_map.mp mem
    exact Nat.zero_ne_one
  rcases passed.of_stopping with
    ⟨result, first, exchanges, rfl, success, rfl, before, run⟩ | ⟨failed, before⟩
  · obtain ⟨messages, order⟩ := QueuedMessage.publish_gives run
    have shown : displayed c.history = messages := by
      rw [reach.displayed_eq, made, List.filterMap_append, List.filterMap_append,
        reach.displays_nothing (fun deed mem => by simp [made, mem]) fun deed mem =>
          (before deed mem).ne',
        reach.displays_nothing (fun deed mem => by rw [made]; exact List.mem_append_right _ mem)
          stopping,
        List.nil_append, List.append_nil, List.filterMap_map]
      exact order.displayed
    rw [shown]
    refine ⟨fun _ => ⟨exchanges, ⟨first.map Prod.snd, stops, ?_⟩, order⟩, fun failure => ?_⟩
    · simp [made, Function.comp_def]
    · exact absurd ⟨result, rfl, success⟩ failure
  · refine unpublished failed fun deed mem => ?_
    rw [made] at mem
    rcases List.mem_append.mp mem with mem | mem
    · exact (before deed mem).ne'
    · exact stopping deed mem

/-- When a cell has returned no relay is left. -/
theorem Kept.gone {own relay : Hold} (kept : c.Kept own relay) {ending : CellStage.Ending}
    (idle : c.thread = .idle (some ending)) :
    own.phase.Over ∧ c.drain = none ∧ c.shared.polling = false := by
  have thread := kept.thread
  rw [idle] at thread
  obtain ⟨-, ceased, -⟩ := thread
  refine ⟨ceased, ?_, ?_⟩
  · cases underWay : c.drain with
    | none => rfl
    | some rest => exact absurd (kept.locks.underWay (by rw [underWay]; rfl)) ceased.ne_polling
  · cases polling : c.shared.polling with
    | false => rfl
    | true => exact absurd (kept.locks.polling polling) ceased.ne_polling

/-- Since the final drain of a relay began to read, nothing was done but this. -/
theorem Reachable.untilEnd_of_sweeping (reach : c.Reachable) {before since : List Event}
    (trace : RelayTrace.of c.history = .sweeping before since) :
    ∀ event ∈ since, event.untilEnd := by
  induction since generalizing c with
  | nil => exact List.forall_mem_nil _
  | cons event rest ih =>
    obtain ⟨earlier, history, still⟩ := RelayTrace.of_sweeping_cons trace
    have happened : event :: earlier <:+ c.history := history ▸ List.suffix_rfl
    obtain ⟨a, b, reached, step, rfl, now, -⟩ := reach.exists_step happened
    refine List.forall_mem_cons.mpr ⟨?_, ih reached still⟩
    cases event with
    | printed text => trivial
    | began =>
      rw [history] at trace
      cases trace
    | exchanged party exchange =>
      cases party with
      | relay =>
        have polling := reach.polling_of_relay happened
        rw [still] at polling
        cases polling
      | kernel stage =>
        -- the relay was stopped by the last stage, so that is where the kernel is
        have ceased : (RelayTrace.of a.history).phase = .sweeping := by
          rw [still]
          rfl
        obtain ⟨other, mem, stopped⟩ := RelayTrace.exists_stopped (.inr ceased)
        obtain ⟨k, outcome, stopping, rfl⟩ := reached.stops mem stopped
        obtain ⟨next, within, -⟩ := step.of_kernel now
        obtain ⟨_, source, parent, course⟩ := reached.course
        rw [within] at course
        have last := course.left_le _ (mem_deeds.mpr mem)
        cases stage with
        | stopping _ _ => trivial
        | _ => simp [CellStage.left] at last

/-- A cell without a relay did nothing but to announce, to expand and to try to start one. -/
theorem Reachable.untilStart_of_absent (reach : c.Reachable)
    (idle : c.thread = .idle (some (outcome, k')))
    (absent : (RelayTrace.of c.history).phase = .absent) :
    ∀ event ∈ thisCell c.history, event.untilStart := by
  obtain ⟨k, source, parent, course⟩ := reach.course
  rw [idle] at course
  have unstopped : ∀ event ∈ thisCell c.history, event.drained ≠ .stopped := by
    intro event mem stopped
    obtain ⟨since, earlier, split, going⟩ := exists_append_of_mem mem
    rw [split] at absent
    refine RelayTrace.phase_of_append_ne_absent going ?_ absent
    rw [RelayTrace.phase_of_cons (ne_began_of_mem mem), stopped]
    exact nofun
  rcases course.ended with ⟨early, -⟩ | ⟨earlier, exchanges, had, made, -, run⟩
  · intro event mem
    cases event with
    | printed text => trivial
    | began => exact absurd rfl (ne_began_of_mem mem)
    | exchanged party exchange =>
      cases party with
      | relay => exact absurd mem (reach.unrelayed absent)
      | kernel stage =>
        have le := early _ (mem_deeds.mpr mem)
        cases stage with
        | announcing | expanding | starting => trivial
        | _ => simp [CellStage.left] at le
  · obtain ⟨_, rest, rfl, -⟩ := Program.Gives.of_ask run
    refine absurd rfl (unstopped (.exchanged (.kernel (.stopping k' outcome))
      ⟨Host.Request.stopPolling, ()⟩) (mem_deeds.mp ?_))
    simp [made]

/-- Unless a read failed, all that was printed before the final drain of a cell began to read has
been broadcast. -/
theorem Reachable.swept_of_idle (reach : c.Reachable) (sent : Sent c.history)
    (read : Unfailed c.history) (idle : c.thread = .idle (some (outcome, k'))) :
    match RelayTrace.of c.history with
    | .absent => ∀ event ∈ thisCell c.history, event.untilStart
    | .sweeping before since =>
      printed before <+: relayed c.history ∧ ∀ event ∈ since, event.untilEnd
    | _ => False := by
  obtain ⟨own, relay, kept⟩ := reach.kept
  obtain ⟨ceased, -⟩ := kept.gone idle
  have phase := kept.phase
  have thread := kept.thread
  rw [idle] at thread
  obtain ⟨free, -, due⟩ := thread
  cases trace : RelayTrace.of c.history with
  | absent => exact reach.untilStart_of_absent idle (by rw [trace]; rfl)
  | sweeping before since =>
    refine ⟨?_, reach.untilEnd_of_sweeping trace⟩
    rw [trace] at phase
    refine kept.all_of_owed sent free (RelayTrace.printed_before trace) (due phase.symm) ?_
    exact kept.swept sent before since trace fun event mem =>
      read event (RelayTrace.mem_of_sweeping trace event mem)
  | polling =>
    rw [trace] at phase
    exact ceased.ne_polling phase.symm
  | stopped =>
    rw [trace] at phase
    rcases ceased with same | same <;> cases phase.trans same

end Idle

/-- Cells publish in order if reads of output and the broadcasts of it succeed, whatever else is
answered and whenever the target prints and the relay polls. Notices come before everything else of
a cell. What earlier evaluations left comes next, as one message of its own, before the relay is
there and before the cell is evaluated. All that was printed before the evaluation returned comes
before the messages for display. And when a cell has returned, all that was printed before the final
drain of its relay has been broadcast, the messages for display have been offered in the order of
the queue, and the result or the error is still to come. -/
theorem Reachable.publication_ordered (reach : c.Reachable) (sent : Sent c.history)
    (read : Unfailed c.history) :
    (∀ event before, event :: before <:+ c.history → event.InOrder before) ∧
      ∀ outcome k', c.thread = .idle (some (outcome, k')) → c.Concluded outcome k' := by
  refine ⟨fun event before happened => ?_, fun outcome k' idle => ?_⟩
  · have earlier := (List.suffix_cons event before).trans happened
    have sentBefore : Sent before := fun event mem => sent event (earlier.subset mem)
    have readBefore : Unfailed before := fun event mem => read event (earlier.subset mem)
    exact ⟨reach.besideNotices_of_notifies happened,
      reach.caughtUp_of_opens happened sentBefore readBefore,
      fun here => here.elim (reach.started_of_evaluates happened) (reach.started_of_relay happened),
      reach.caughtUp_of_displays happened sentBefore readBefore⟩
  · obtain ⟨own, relay, kept⟩ := reach.kept
    obtain ⟨-, gone⟩ := kept.gone idle
    obtain ⟨forwarded, undisplayed⟩ := reach.displayed_of_idle idle
    exact ⟨reach.reply_of_idle idle, fun event mem m => reach.unreported mem, forwarded,
      undisplayed, reach.swept_of_idle sent read idle, gone⟩

/-- A queue of one message without parts is read and the message displayed. -/
def emptyMessageLog : List (Exchange Host) :=
  (default : Kernel).submission TargetLanguage.swift.takeQueue
      ⟨.ok (.value ⟨0, 1⟩), .ok ⟨"[]", none, none⟩⟩ ++
    [⟨Host.Request.debugger (.children ⟨0, 1⟩), Except.ok [⟨1, 1⟩]⟩,
      ⟨Host.Request.debugger (.children ⟨1, 1⟩), Except.ok []⟩,
      ⟨Host.Request.broadcast (.parts []), Except.ok ()⟩]

theorem gives_emptyMessageLog : (QueuedMessage.publish default).Gives emptyMessageLog () :=
  .ask _ _ (.ask _ _ (.ask _ _ (.ask _ _ (.ask _ _ (.ask _ _ (.ask _ _ (.ask _ _
    (.ask _ _ (.done _)))))))))

theorem answersAll_emptyMessageLog (s : Shared) : s.AnswersAll emptyMessageLog s :=
  .cons rfl (.cons rfl (.cons rfl (.cons rfl (.cons rfl (.cons rfl (.cons rfl (.cons rfl
    (.cons rfl (.nil s)))))))))

/-- The target prints before a cell, while it is evaluated and while its messages are read. The cell
asks for completion and has a message for display. -/
theorem Reachable.publication_ordered_display :
    ∃ (c : Desk) (outcome : Except Error CellResult) (k' : Kernel), c.Reachable ∧ Sent c.history ∧
      Unfailed c.history ∧ c.thread = .idle (some (outcome, k')) ∧ Succeeds outcome ∧
      printed c.history = "abc".toList ∧
      ((thisCell c.history).filterMap Event.message?).reverse =
        [.notification (.stdout (CompletionState.notice default)), .notification (.stdout "a"),
          .notification (.stdout "b"), .parts [], .notification (.stdout "c")] ∧
      (∀ event before, event :: before <:+ c.history → event.InOrder before) ∧
      c.Concluded outcome k' := by
  have expanded : (Kernel.expand "%enableCompletion\nx" default).Gives
      [⟨Host.Request.broadcast (.notification (.stdout (CompletionState.notice default))),
        Except.ok ()⟩] (.ok "\nx", default) :=
    .ask _ _ (.done _)
  have started : (Streaming.start 1000).run.Gives
      (readLog "a" ++ [⟨Host.Request.startPolling, .ok ()⟩]) (.ok ()) :=
    (gives_readLog (by decide)).bind (.ask _ _ (.done _))
  have stopped : (Streaming.stop 1000).Gives
      (⟨Host.Request.stopPolling, ()⟩ :: drainLog true "c") true :=
    .ask _ _ (gives_drainLog (by decide) true)
  have printing := (Relation.ReflTransGen.refl : initial.Reachable).tail (.print "a".toList)
  have announcing := printing.tail (.begin default "%enableCompletion\nx" .null rfl)
  have expanding := Reachable.passes announcing rfl rfl gives_contextLog
    (answersAll_evaluationLog _ _ _) rfl
  have starting := Reachable.passes expanding rfl rfl expanded (.cons rfl (.nil _)) rfl
  have executing := Reachable.passes starting rfl rfl started
    (answersAll_readLog (by decide) rfl (.cons rfl (.nil _))) rfl
  have flushing := ((Reachable.alone executing rfl rfl (gives_valuelessLog "\nx")
    (answersAll_evaluationLog _ _ _)).tail (.print "b".toList)).tail (.advance rfl rfl)
  have publishing := Reachable.passes flushing rfl rfl (gives_drainLog (by decide) false)
    (answersAll_drainLog (by decide) rfl rfl) rfl
  have stopping := ((Reachable.alone publishing rfl rfl gives_emptyMessageLog
    (answersAll_emptyMessageLog _)).tail (.print "c".toList)).tail (.advance rfl rfl)
  have idle := Reachable.returns stopping rfl rfl stopped
    (.cons ⟨rfl, rfl⟩ (answersAll_drainLog (by decide) rfl rfl)) rfl
  obtain ⟨ordered, concluded⟩ := Reachable.publication_ordered idle (by decide) (by decide)
  exact ⟨_, _, _, idle, by decide, by decide, rfl, ⟨_, rfl, rfl⟩, rfl, rfl, ordered,
    concluded _ _ rfl⟩

end Desk

end NotebookKernel
