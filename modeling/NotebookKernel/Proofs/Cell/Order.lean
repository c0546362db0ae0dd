import NotebookKernel.Proofs.Cell.Attribution
import NotebookKernel.Proofs.Cell.Flushing
import NotebookKernel.Proofs.Cell.Forwarding
import NotebookKernel.Proofs.Cell.Phases

/-!
The order in which a cell publishes.

Two threads publish while a cell runs, the kernel and the relay beside it. What keeps the order is
what the kernel does in between: the relay is started behind the notices and the output that earlier
evaluations left, and the flush stands between the evaluation and the messages for display.
`Event.InOrder` says what each event finds done, and the lemmas about `Desk.Reachable` that every
event does, whatever the relay and the target do meanwhile.
-/

namespace NotebookKernel

/-! ## Events and their order -/

namespace Event

/-- The message that the channel was offered. -/
def message? : Event → Option Broadcast
  | exchanged _ exchange => exchange.request.message?
  | _ => none

/-- The message that the channel was offered, unless it is a notice about completion: those are what
the expansion of a cell offers. -/
def besideNotices? : Event → Option Broadcast
  | exchanged (.kernel (.expanding _ _)) _ => none
  | event => event.message?

/-- The target printed, or the kernel announced or expanded the cell or was about to start the
relay. -/
def untilStart : Event → Prop
  | printed _ => True
  | exchanged (.kernel stage) _ =>
    match stage with
    | .announcing _ _ _ | .expanding _ _ | .starting _ _ => True
    | _ => False
  | _ => False

/-- The expansion of a cell offers a notice about completion. -/
inductive Notifies : Event → Prop
  | intro (k : Kernel) (source : String) (m : Broadcast) (answer : Except Error Unit) :
    Notifies (.exchanged (.kernel (.expanding k source)) ⟨Host.Request.broadcast m, answer⟩)

/-- Before the relay is started the kernel counts what earlier evaluations left. -/
inductive Counts : Event → Prop
  | intro (k : Kernel) (code : String) (unread : Nat) :
    Counts (.exchanged (.kernel (.starting k code)) ⟨Host.Request.debugger .unreadOutput, unread⟩)

/-- The relay is to be started. -/
inductive Opens : Event → Prop
  | intro (k : Kernel) (code : String) (started : Except Error Unit) :
    Opens (.exchanged (.kernel (.starting k code)) ⟨Host.Request.startPolling, started⟩)

/-- The relay is started. -/
inductive Starts : Event → Prop
  | intro (k : Kernel) (code : String) :
    Starts (.exchanged (.kernel (.starting k code)) ⟨Host.Request.startPolling, .ok ()⟩)

/-- The evaluation of the cell returns. -/
inductive Evaluates : Event → Prop
  | intro (k : Kernel) (code submitted : String) (options : RunOptions)
      (result : Except Error Evaluation) :
    Evaluates (.exchanged (.kernel (.executing k code))
      ⟨Host.Request.debugger (.evaluate submitted options), result⟩)

/-- A message for display is offered. -/
inductive Displays : Event → Prop
  | intro (party : Party) (parts : List Bytes) (answer : Except Error Unit) :
    Displays (.exchanged party ⟨Host.Request.broadcast (.parts parts), answer⟩)

/-- The relay does something. -/
inductive OfRelay : Event → Prop
  | intro (exchange : Exchange Host) : OfRelay (.exchanged .relay exchange)

end Event

/-- What was offered in the latest cell beside notices, the latest first. -/
def besideNotices (history : List Event) : List Broadcast :=
  (thisCell history).filterMap Event.besideNotices?

/-- Something has happened in the latest cell, and all that was printed before has been
broadcast. -/
structure CaughtUp (mark : Event → Prop) (history : List Event) : Prop where
  happened : ∃ event ∈ thisCell history, mark event
  broadcast : ∀ event earlier, event :: earlier <:+ history → mark event →
    printed earlier <+: relayed history

/-- What an event finds done when a cell publishes in order. -/
structure Event.InOrder (event : Event) (before : List Event) : Prop where
  /-- Nothing but notices was published. -/
  notice : event.Notifies → besideNotices before = []
  /-- What earlier evaluations left was published, by one message if there was anything, and beside
  notices nothing else was. The cell was not evaluated. -/
  start : event.Opens → CaughtUp Event.Counts before ∧ (besideNotices before).length ≤ 1 ∧
    ∀ other ∈ thisCell before, other.untilStart
  /-- The relay was started. -/
  started : event.Evaluates ∨ event.OfRelay → ∃ other ∈ thisCell before, other.Starts
  /-- The evaluation has returned, and what was printed by then was published. -/
  display : event.Displays → CaughtUp Event.Evaluates before

/-! ## The start of a relay -/

namespace Streaming

variable {chunk : Nat} {log : List (Exchange Host)}

/-- Reading output offers nothing. -/
theorem collect_quiet (chunk reads : Nat) (taken : String) :
    (collect chunk reads taken).Asks fun r : Host.Request => r.message? = none := by
  induction reads generalizing taken with
  | zero => trivial
  | succ reads ih =>
    refine ⟨rfl, fun answer => ?_⟩
    cases answer with
    | error e => exact ⟨rfl, fun _ => trivial⟩
    | ok text =>
      change Program.Asks _ (if text = "" then _ else _)
      split
      · trivial
      · exact ih _

/-- What is captured is counted first, and in the end offered by one message at most. -/
theorem broadcastUnread_gives {had : Bool} (run : (broadcastUnread chunk).Gives log had) :
    (∃ unread rest, log = ⟨Host.Request.debugger .unreadOutput, unread⟩ :: rest) ∧
      (offered log).length ≤ 1 := by
  obtain ⟨unread, rest, rfl, counted⟩ := run.of_ask
  refine ⟨⟨unread, rest, rfl⟩, ?_⟩
  obtain ⟨reads, sending, text, rfl, read, sent⟩ :=
    Program.Gives.of_bind (p := collect chunk (unread + 1) "") counted
  have quiet := offered_eq_nil read (collect_quiet chunk _ _)
  change (offered (reads ++ sending)).length ≤ 1
  rw [offered_append, quiet, List.nil_append]
  by_cases empty : text = ""
  · rw [if_pos empty] at sent
    obtain ⟨rfl, -⟩ := sent.of_done
    exact Nat.zero_le _
  · rw [if_neg empty] at sent
    obtain ⟨first, second, _, rfl, told, done⟩ := Program.Gives.of_bind sent
    obtain ⟨rfl, -⟩ := done.of_done
    rw [List.append_nil, Act.broadcastOrWarn_offers told]
    exact Nat.le_refl _

/-- The relay is started in the end. -/
theorem start_gives {started : Except Error Unit} (run : (start chunk).run.Gives log started) :
    ∃ reads, log = reads ++ [⟨Host.Request.startPolling, started⟩] := by
  obtain ⟨reads, last, had, rfl, -, starting⟩ := Program.Gives.of_bind run
  obtain ⟨_, _, rfl, done⟩ := starting.of_ask
  obtain ⟨rfl, rfl⟩ := done.of_done
  exact ⟨reads, rfl⟩

/-- When it is about to be started, what was captured has been read. -/
theorem start_comes {next : Except Error Unit → Act (Except Error Unit)}
    (comes : (start chunk).run.Comes log (.ask Host.Request.startPolling next)) :
    ∃ had, (broadcastUnread chunk).Gives log had := by
  rcases Program.Comes.of_bind comes with ⟨rest, reading, same⟩ | ⟨reads, last, had, rfl, run, here⟩
  · cases rest with
    | done had => exact ⟨had, reading.gives_done⟩
    | ask r rest =>
      cases same
      cases (reading.asks (broadcastUnread_asks chunk)).1
  · rcases Program.Comes.of_ask here with ⟨rfl, -⟩ | ⟨_, _, rfl, done⟩
    · rw [List.append_nil]
      exact ⟨had, run⟩
    · cases done.of_done.2

end Streaming

/-! ## Stages and relay -/

/-- Only what starts or stops the relay has that effect. -/
theorem Exchange.request_of_effect (exchange : Exchange Host) :
    (exchange.effect = .started → exchange.request = .startPolling) ∧
      (exchange.effect = .stopped → exchange.request = .stopPolling) := by
  obtain ⟨r, answer⟩ := exchange
  cases r with
  | startPolling => cases answer <;> exact ⟨fun _ => rfl, nofun⟩
  | stopPolling => exact ⟨nofun, fun _ => rfl⟩
  | debugger r =>
    cases r with
    | takeOutput limit => cases answer <;> exact ⟨nofun, nofun⟩
    | _ => exact ⟨nofun, nofun⟩
  | broadcast m =>
    cases m with
    | parts _ => exact ⟨nofun, nofun⟩
    | notification n =>
      cases n with
      | stream name text => cases answer <;> exact ⟨nofun, nofun⟩
      | _ => exact ⟨nofun, nofun⟩
  | _ => exact ⟨nofun, nofun⟩

/-- What has an effect as part of a drain is an exchange with that effect. -/
theorem Event.of_drained {event : Event} {effect : Effect} (drained : event.drained = effect)
    (some : effect ≠ .other) :
    ∃ party exchange, event = .exchanged party exchange ∧ exchange.effect = effect := by
  cases event with
  | exchanged party exchange =>
    refine ⟨party, exchange, rfl, ?_⟩
    by_cases role : party.role = .bystander
    · exact absurd (drained.symm.trans (if_pos role)) some
    · exact (if_neg role).symm.trans drained
  | _ => exact absurd drained.symm some

namespace Desk

variable {c : Desk}

/-- When the relay does something it polls. -/
theorem Reachable.polling_of_relay (reach : c.Reachable) {exchange : Exchange Host}
    {before : List Event} (happened : .exchanged .relay exchange :: before <:+ c.history) :
    (RelayTrace.of before).phase = .polling := by
  obtain ⟨a, reached, rfl, next, underWay⟩ := reach.draining happened
  obtain ⟨own, relay, kept⟩ := reached.kept
  rw [kept.polling_of_drain underWay]
  rfl

/-- While there is no relay nobody but the kernel does anything. -/
theorem Reachable.unrelayed (reach : c.Reachable)
    (absent : (RelayTrace.of c.history).phase = .absent) {exchange : Exchange Host} :
    .exchanged .relay exchange ∉ thisCell c.history := by
  intro mem
  obtain ⟨since, earlier, split, going⟩ := exists_append_of_mem mem
  have polling := reach.polling_of_relay ⟨since, split.symm⟩
  rw [split, List.append_cons] at absent
  refine RelayTrace.phase_of_append_ne_absent ?_ (by rw [polling]; exact nofun) absent
  intro other here
  rcases List.mem_append.mp here with here | here
  · exact going other here
  · obtain rfl := List.mem_singleton.mp here
    exact nofun

/-- A relay is started by the kernel, when it is about to. -/
theorem Reachable.starts (reach : c.Reachable) {event : Event} (mem : event ∈ thisCell c.history)
    (started : event.drained = .started) : event.Starts := by
  obtain ⟨party, ⟨r, answer⟩, rfl, effect⟩ := Event.of_drained started nofun
  obtain rfl : r = .startPolling := (Exchange.request_of_effect _).1 effect
  obtain ⟨since, earlier, split, -⟩ := exists_append_of_mem mem
  have happened := List.suffix_append since (.exchanged party ⟨.startPolling, answer⟩ :: earlier)
  rw [← split] at happened
  cases party with
  | relay => cases reach.drains happened
  | kernel stage =>
    obtain ⟨k, code, rfl⟩ := (reach.mayAsk happened).of_startPolling
    cases answer with
    | error e => cases effect
    | ok _ => exact .intro k code

/-- And it is stopped so. -/
theorem Reachable.stops (reach : c.Reachable) {event : Event} (mem : event ∈ thisCell c.history)
    (stopped : event.drained = .stopped) :
    ∃ k outcome exchange, event = .exchanged (.kernel (.stopping k outcome)) exchange := by
  obtain ⟨party, ⟨r, answer⟩, rfl, effect⟩ := Event.of_drained stopped nofun
  obtain rfl : r = .stopPolling := (Exchange.request_of_effect _).2 effect
  obtain ⟨since, earlier, split, -⟩ := exists_append_of_mem mem
  have happened := List.suffix_append since (.exchanged party ⟨.stopPolling, answer⟩ :: earlier)
  rw [← split] at happened
  cases party with
  | relay => cases reach.drains happened
  | kernel stage =>
    obtain ⟨k, outcome, rfl⟩ := (reach.mayAsk happened).of_stopPolling
    exact ⟨k, outcome, _, rfl⟩

/-- While there is no relay, the stages of all that happened are no later than the one that the
kernel is in. -/
theorem Reachable.left_le (reach : c.Reachable)
    (absent : (RelayTrace.of c.history).phase = .absent) {stage : CellStage}
    {rest : Act stage.Result} (within : c.thread = .within stage rest) {event : Event}
    (mem : event ∈ thisCell c.history) :
    (∃ text, event = .printed text) ∨
      ∃ earlier exchange, event = .exchanged (.kernel earlier) exchange ∧
        stage.left ≤ earlier.left := by
  cases event with
  | printed text => exact .inl ⟨text, rfl⟩
  | began => exact absurd rfl (ne_began_of_mem mem)
  | exchanged party exchange =>
    cases party with
    | relay => exact absurd mem (reach.unrelayed absent)
    | kernel earlier =>
      obtain ⟨k, source, parent, course⟩ := reach.course
      rw [within] at course
      exact .inr ⟨earlier, exchange, rfl, course.left_le _ (mem_deeds.mpr mem)⟩

/-- While the kernel expands a cell there is no relay. -/
theorem Reachable.absent_of_expanding (reach : c.Reachable) {k : Kernel} {source : String}
    {rest : Act (Except ExpansionError String × Kernel)}
    (within : c.thread = .within (.expanding k source) rest) :
    (RelayTrace.of c.history).phase = .absent := by
  obtain ⟨mine, its, tallied⟩ := reach.tallied
  have thread := tallied.thread
  rw [within] at thread
  obtain rfl : mine = .fresh := thread.2
  rw [tallied.early rfl]
  rfl

/-- While there is no relay, what was offered is what the kernel offered. -/
theorem Reachable.besideNotices_eq (reach : c.Reachable)
    (absent : (RelayTrace.of c.history).phase = .absent) :
    besideNotices c.history = ((deeds c.history).filterMap fun deed =>
      Event.besideNotices? (.exchanged (.kernel deed.1) deed.2)).reverse := by
  rw [besideNotices, deeds, List.filterMap_reverse, List.reverse_reverse, List.filterMap_filterMap]
  refine List.filterMap_congr fun event mem => ?_
  cases event with
  | exchanged party exchange =>
    cases party with
    | kernel stage => rfl
    | relay => exact absurd mem (reach.unrelayed absent)
  | _ => rfl

/-- To announce and to expand a cell offers nothing beside notices. -/
theorem Reachable.besideNotices?_eq_none (reach : c.Reachable) {deed : CellStage × Exchange Host}
    (mem : deed ∈ deeds c.history) (early : 5 ≤ deed.1.left) :
    Event.besideNotices? (.exchanged (.kernel deed.1) deed.2) = none := by
  obtain ⟨stage, r, answer⟩ := deed
  cases stage with
  | announcing k source parent =>
    obtain ⟨since, earlier, split, -⟩ := exists_append_of_mem (mem_deeds.mp mem)
    have submits : r.Submits := reach.mayAsk ⟨since, split.symm⟩
    cases r with
    | broadcast m => cases submits
    | _ => rfl
  | expanding k source => rfl
  | _ => simp [CellStage.left] at early

/-- A notice comes before everything else that a cell publishes. -/
theorem Reachable.besideNotices_of_notifies (reach : c.Reachable) {event : Event}
    {before : List Event} (happened : event :: before <:+ c.history) (notifies : event.Notifies) :
    besideNotices before = [] := by
  obtain ⟨k, source, m, answer⟩ := notifies
  obtain ⟨a, reached, rfl, next, within⟩ := reach.asking happened
  obtain ⟨_, _, _, course⟩ := reached.course
  rw [within] at course
  rw [reached.besideNotices_eq (reached.absent_of_expanding within), List.reverse_eq_nil_iff,
    List.filterMap_eq_nil_iff]
  exact fun deed mem => reached.besideNotices?_eq_none mem (course.left_le deed mem)

/-- The evaluation of a cell returns after its relay was started. -/
theorem Reachable.started_of_evaluates (reach : c.Reachable) {event : Event} {before : List Event}
    (happened : event :: before <:+ c.history) (evaluates : event.Evaluates) :
    ∃ other ∈ thisCell before, other.Starts := by
  obtain ⟨k, code, submitted, options, result⟩ := evaluates
  obtain ⟨a, reached, rfl, next, within⟩ := reach.asking happened
  obtain ⟨kernel, source, parent, course⟩ := reached.course
  rw [within] at course
  obtain ⟨earlier, exchanges, made, passed, -⟩ := course
  obtain ⟨first, starts, rfl, run⟩ := passed.of_executing
  refine ⟨_, mem_deeds.mp ?_, .intro k code⟩
  obtain ⟨reads, rfl⟩ := Streaming.start_gives run
  simp [made]

/-- The relay does something only after it was started. -/
theorem Reachable.started_of_relay (reach : c.Reachable) {event : Event} {before : List Event}
    (happened : event :: before <:+ c.history) (relay : event.OfRelay) :
    ∃ other ∈ thisCell before, other.Starts := by
  obtain ⟨exchange⟩ := relay
  obtain ⟨a, reached, rfl, next, underWay⟩ := reach.draining happened
  obtain ⟨other, mem, started⟩ := RelayTrace.exists_started (reach.polling_of_relay happened)
  exact ⟨other, mem, reached.starts mem started⟩

/-! ## What has been broadcast when a relay is started -/

/-- About to start a relay, the kernel has read what it counted, and there is none yet. -/
theorem Reachable.opening (reach : c.Reachable) {k : Kernel} {code : String}
    {next : Except Error Unit → Act (Except Error Unit)}
    (within : c.thread = .within (.starting k code) (.ask Host.Request.startPolling next)) :
    (RelayTrace.of c.history).phase = .absent ∧ Unread 0 c.history ∧
      taken c.history ++ c.shared.captured = printed c.history ∧ inHand c.history = [] := by
  obtain ⟨own, relay, kept⟩ := reach.kept
  obtain ⟨mine, its, tallied⟩ := reach.tallied
  have tells := tallied.thread
  have holds := kept.thread
  rw [within] at tells holds
  obtain rfl : mine = .opening 0 := (tells.1 (.ok ())).1
  obtain ⟨-, -, free⟩ : _ ∧ _ ∧ own.Free := (holds.1 (.ok ())).1
  have absent := tallied.early rfl
  have resting : c.drain = none := kept.resting_of_ne_polling (by rw [absent]; exact nofun)
  refine ⟨by rw [absent]; rfl, tallied.accounts.unread 0 rfl, tallied.accounts.balance, ?_⟩
  rw [kept.hand, free.2, (kept.locks.relayFree (by rw [resting]; rfl)).2]
  rfl

/-- So all that was printed before it counted has been broadcast. -/
theorem Reachable.printed_prefix_of_starting (reach : c.Reachable) (sent : Sent c.history)
    (read : Unfailed c.history) {k : Kernel} {code : String}
    {next : Except Error Unit → Act (Except Error Unit)}
    (within : c.thread = .within (.starting k code) (.ask Host.Request.startPolling next)) :
    printed (beforeCount c.history) <+: relayed c.history := by
  obtain ⟨-, unread, balance, hand⟩ := reach.opening within
  obtain ⟨own, relay, kept⟩ := reach.kept
  have whole := kept.balance sent
  rw [hand, List.append_nil, ← balance] at whole
  have same : relayed c.history = taken c.history := List.append_cancel_right whole
  rw [same]
  refine List.prefix_of_prefix_length_le (printed_beforeCount _) ⟨_, balance⟩ ?_
  exact unread.enough fun event mem => read event (mem_of_mem_sinceCount mem)

/-- A relay is to be started when what earlier evaluations left has been broadcast, by one message
if there was anything, and nothing else of the cell has but notices. -/
theorem Reachable.caughtUp_of_opens (reach : c.Reachable) {event : Event} {before : List Event}
    (happened : event :: before <:+ c.history) (sent : Sent before) (read : Unfailed before)
    (opens : event.Opens) :
    CaughtUp Event.Counts before ∧ (besideNotices before).length ≤ 1 ∧
      ∀ other ∈ thisCell before, other.untilStart := by
  obtain ⟨k, code, started⟩ := opens
  obtain ⟨a, reached, rfl, next, within⟩ := reach.asking happened
  obtain ⟨absent, -⟩ := reached.opening within
  obtain ⟨kernel, source, parent, course⟩ := reached.course
  rw [within] at course
  obtain ⟨earlier, exchanges, made, passed, comes⟩ := course
  obtain ⟨had, run⟩ := Streaming.start_comes comes
  obtain ⟨⟨unread, rest, counted⟩, few⟩ := Streaming.broadcastUnread_gives run
  refine ⟨⟨⟨_, mem_deeds.mp ?_, .intro k code unread⟩, ?_⟩, ?_, ?_⟩
  · simp [made, counted]
  · rintro _ before happened ⟨k', code', unread'⟩
    exact (printed_prefix_beforeCount rfl happened).trans
      (reached.printed_prefix_of_starting sent read within)
  · have none : earlier.filterMap (fun deed =>
        Event.besideNotices? (.exchanged (.kernel deed.1) deed.2)) = [] := by
      refine List.filterMap_eq_nil_iff.mpr fun deed mem => ?_
      refine reached.besideNotices?_eq_none ?_ (passed.left_lt deed mem)
      rw [made]
      exact List.mem_append_left _ mem
    rw [reached.besideNotices_eq absent, made, List.filterMap_append, none, List.nil_append,
      List.length_reverse, List.filterMap_map]
    exact few
  · intro other mem
    rcases reached.left_le absent within mem with ⟨text, rfl⟩ | ⟨stage, exchange, rfl, le⟩
    · trivial
    · cases stage with
      | announcing | expanding | starting => trivial
      | _ => simp [CellStage.left] at le

/-! ## What has been broadcast when a message is displayed -/

/-- What was printed before an evaluation returned is broadcast when messages are published. -/
theorem Reachable.relayed_of_evaluates (reach : c.Reachable) (sent : Sent c.history)
    (read : Unfailed c.history) {event : Event} {earlier : List Event}
    (happened : event :: earlier <:+ c.history) (evaluates : event.Evaluates) {k : Kernel}
    {result : CellResult} {rest : Act Unit}
    (within : c.thread = .within (.publishing k result) rest) :
    printed earlier <+: relayed c.history := by
  obtain ⟨a, b, reached, step, rfl, now, run⟩ := reach.exists_step happened
  obtain ⟨own, relay, kept⟩ := Reachable.kept (reached.tail step)
  have owes : b.Owes (printed a.history) own := by
    obtain ⟨k, code, submitted, options, answer⟩ := evaluates
    obtain ⟨next, -, within⟩ := step.of_kernel now
    have same : printed b.history = printed a.history := by rw [now, printed_of_exchange rfl]
    refine ⟨same ▸ List.prefix_rfl, ?_⟩
    rw [within]
    trivial
  obtain ⟨own, relay, kept, owes⟩ := owes.run kept run sent read
  have thread := owes.thread
  rw [within] at thread
  exact thread

/-- Messages are displayed behind the evaluation, when its output has been broadcast. -/
theorem Reachable.caughtUp_of_displays (reach : c.Reachable) {event : Event} {before : List Event}
    (happened : event :: before <:+ c.history) (sent : Sent before) (read : Unfailed before)
    (displays : event.Displays) : CaughtUp Event.Evaluates before := by
  obtain ⟨party, parts, answer⟩ := displays
  cases party with
  | relay => cases reach.drains happened
  | kernel stage =>
    obtain ⟨k, result, rfl⟩ := (reach.mayAsk happened).of_parts
    obtain ⟨a, reached, rfl, next, within⟩ := reach.asking happened
    refine ⟨?_, fun event earlier happened evaluates =>
      reached.relayed_of_evaluates sent read happened evaluates within⟩
    obtain ⟨kernel, source, parent, course⟩ := reached.course
    rw [within] at course
    obtain ⟨earlier, exchanges, made, passed, -⟩ := course
    obtain ⟨-, first, flushes, rfl, flushing⟩ := passed.of_publishing
    obtain ⟨_, code, r, rfl, -⟩ := flushing.of_flushing
    refine ⟨_, mem_deeds.mp ?_, .intro k code (k.located code) k.session.options r.evaluation⟩
    simp [made, Kernel.submission, Session.evaluating]

end Desk

end NotebookKernel
