import NotebookKernel.Proofs.Cell.Expectations

/-!
Output is attributed to the right cell.

A cell tells whether it printed, and what counts is what its relay took since it was started and up
to the flush behind the evaluation. What was printed before the start of the relay began to read
does not count, since that start takes all of it, unless a read of it fails; and what is taken after
the flush comes too late. `Desk.Tallied` is what every step keeps, for two tallies: the kernel's and
that of the relay's drain. `Desk.Reachable.output_attributed` is the statement about everything
kernel, relay and target may come to.
-/

namespace NotebookKernel

/-! ## What every step keeps -/

namespace Desk

/-- What every step keeps, for what the kernel and the relay's drain know. -/
structure Tallied (c : Desk) (mine its : Tally) : Prop where
  thread : c.thread.Tells mine (Window.of c.history)
  drain : ∀ rest, c.drain = some rest →
    rest.Keeps Tally.rules its fun t _ => t.known? = none
  resting : c.drain = none → its.known? = none
  late : its.isEarly = false
  early : mine.isEarly = true → RelayTrace.of c.history = .absent
  memory : Memory c.shared mine.known? its.known? (Window.of c.history).had?
  /-- What the last drain gave back is remembered when the relay is gone. -/
  last : ∀ printed, mine = .gave printed → RelayTrace.of c.history ≠ .polling →
    c.shared.printed = printed
  accounts : Accounts c.shared mine c.history

/-- While the relay drains it polls. -/
theorem Kept.polling_of_drain {c : Desk} {own relay : Hold} (kept : c.Kept own relay)
    {rest : Act Bool} (underWay : c.drain = some rest) : RelayTrace.of c.history = .polling := by
  have phase := kept.phase.trans (kept.locks.underWay (by rw [underWay]; rfl))
  cases trace : RelayTrace.of c.history with
  | polling => rfl
  | _ =>
    rw [trace] at phase
    cases phase

theorem Kept.resting_of_ne_polling {c : Desk} {own relay : Hold} (kept : c.Kept own relay)
    (gone : RelayTrace.of c.history ≠ .polling) : c.drain = none := by
  cases underWay : c.drain with
  | none => rfl
  | some rest => exact absurd (kept.polling_of_drain underWay) gone

namespace Tallied

variable {c : Desk} {mine its : Tally} {own relay : Hold}

theorem initial : Tallied .initial .free .free where
  thread := ⟨rfl, fun _ _ same => nomatch same⟩
  drain := fun _ running => nomatch running
  resting := fun _ => rfl
  late := rfl
  early := fun _ => rfl
  memory := ⟨rfl, .inl rfl, fun _ here => nomatch here⟩
  last := fun _ same => nomatch same
  accounts := by
    refine ⟨rfl, fun earlier suffix => ?_, fun _ same => (nomatch same),
      fun some => absurd rfl some⟩
    obtain rfl := List.suffix_nil.mp suffix
    exact List.prefix_rfl

theorem print (tallied : c.Tallied mine its) (text : List Char) :
    Tallied { c with
      shared := { c.shared with captured := c.shared.captured ++ text }
      history := .printed text :: c.history } mine its where
  thread := tallied.thread.other rfl trivial
  drain := tallied.drain
  resting := tallied.resting
  late := tallied.late
  early early := by
    change (RelayTrace.of c.history).later _ = .absent
    rw [tallied.early early]
    rfl
  memory := by
    have had : (Window.of (.printed text :: c.history)).had? = (Window.of c.history).had? := by
      change ((Window.of c.history).after _).had? = _
      rw [Window.had?_after]
      simp [Event.drained, Effect.takes]
    rw [had]
    exact ⟨tallied.memory.guarded, tallied.memory.apart, tallied.memory.same⟩
  last printed gave gone := by
    refine tallied.last printed gave fun polling => gone ?_
    change (RelayTrace.of c.history).later _ = _
    rw [polling]
    rfl
  accounts := tallied.accounts.print text

theorem begin (tallied : c.Tallied mine its) {last : Option CellStage.Ending}
    (idle : c.thread = .idle last) (k : Kernel) (source : String) (parent : Json) :
    Tallied { c with
      thread := .within (.announcing k source parent) (CellStage.announcing k source parent).program
      history := .began :: c.history } .fresh its := by
  have thread := tallied.thread
  rw [idle] at thread
  obtain ⟨rfl, -⟩ := thread
  exact ⟨⟨CellStage.tallies _, rfl⟩, tallied.drain, tallied.resting, tallied.late,
    fun _ => rfl, ⟨tallied.memory.guarded, .inl rfl, fun _ here => nomatch here⟩,
    fun _ same => (nomatch same), tallied.accounts.begin⟩

section Exchange

variable {event : Event} {t : Shared} {draining : Bool} {stage : CellStage}

theorem early_after (tallied : c.Tallied mine its) (allowed : mine.Allows event.drained)
    (going : event ≠ .began) (early : (mine.after event.drained).isEarly = true) :
    RelayTrace.of (event :: c.history) = .absent := by
  have running : event.drained ≠ .started := by
    intro started
    rw [started] at allowed early
    obtain rfl := allowed
    cases early
  rw [Tally.isEarly_after allowed running] at early
  have absent := tallied.early early
  rw [RelayTrace.of_cons_same going running ?_ (.inl absent), absent]
  intro stopped
  rw [stopped] at allowed
  obtain rfl := allowed
  cases early

/-- A relay that is started remembers nothing. -/
theorem memory_after (tallied : c.Tallied mine its) (kept : c.Kept own relay)
    (allowed : mine.Allows event.drained) (going : event ≠ .began)
    (answered : c.shared.Answers draining event.drained t) :
    Memory t (mine.after event.drained).known? its.known?
      (Window.of (event :: c.history)).had? := by
  by_cases started : event.drained = .started
  · rw [started] at allowed answered ⊢
    obtain rfl : mine = .opening 0 := allowed
    obtain rfl : t = _ := answered
    have resting : c.drain = none := by
      refine kept.resting_of_ne_polling ?_
      rw [tallied.early rfl]
      exact (nomatch ·)
    have guarded := tallied.memory.guarded
    rw [tallied.resting resting] at guarded ⊢
    rw [Window.of_started started]
    refine ⟨guarded, .inl rfl, ?_⟩
    rintro _ ⟨⟩
    rfl
  · exact tallied.memory.exchange allowed going started tallied.early answered

theorem last_after (tallied : c.Tallied mine its) (allowed : mine.Allows event.drained)
    (going : event ≠ .began) (answered : c.shared.Answers draining event.drained t) {printed : Bool}
    (gave : mine.after event.drained = .gave printed)
    (gone : RelayTrace.of (event :: c.history) ≠ .polling) : t.printed = printed := by
  have running : event.drained ≠ .started := by
    intro started
    rw [started] at allowed gave
    obtain rfl := allowed
    cases gave
  cases unlocks : event.drained.unlocks with
  | true =>
    obtain ⟨before, effect⟩ := Effect.unlocks_iff.mp unlocks
    rw [effect] at allowed answered gave
    obtain rfl := allowed
    obtain rfl : t = _ := answered
    exact Tally.gave.inj gave
  | false =>
    obtain rfl := (Tally.after_eq_gave_iff printed allowed running unlocks).mp gave
    obtain ⟨rfl, unstopped⟩ := Tally.gave_calm allowed answered
    refine tallied.last printed rfl fun polling => gone ?_
    exact (RelayTrace.of_cons_same going running unstopped (.inr polling)).trans polling

theorem expects_after (tallied : c.Tallied mine its) {exchange : Exchange Host}
    (expects : stage.Expects mine (Window.of c.history))
    (allowed : mine.Allows (Event.exchanged (.kernel stage) exchange).drained) :
    stage.Expects (mine.after (Event.exchanged (.kernel stage) exchange).drained)
      (Window.of (.exchanged (.kernel stage) exchange :: c.history)) := by
  by_cases started : (Event.exchanged (.kernel stage) exchange).drained = .started
  · rw [started] at allowed ⊢
    obtain rfl : mine = .opening 0 := allowed
    rw [Window.of_eq_absent (tallied.early rfl)] at expects
    rw [Window.of_started started]
    obtain ⟨k, code, rfl⟩ := expects.opening
    exact fun _ _ mem => nomatch mem
  · have going : Event.exchanged (.kernel stage) exchange ≠ .began := fun same => nomatch same
    rw [Window.of_cons going started]
    refine expects.after allowed started fun printed had holding here => ?_
    have same := tallied.memory.same had here
    rw [holding] at same
    exact same

/-- The kernel takes part in an exchange. -/
theorem exchange (tallied : c.Tallied mine its) (kept : c.Kept own relay) {r : Host.Request}
    {next : Host.Answer r → Act stage.Result} {answer : Host.Answer r}
    (within : c.thread = .within stage (.ask r next))
    (answered : c.shared.Answers c.drain.isSome (Exchange.effect ⟨r, answer⟩) t) :
    Tallied { c with
      thread := .within stage (next answer)
      shared := t
      history := .exchanged (.kernel stage) ⟨r, answer⟩ :: c.history }
      (mine.after (Exchange.effect ⟨r, answer⟩)) its := by
  have thread := tallied.thread
  rw [within] at thread
  obtain ⟨keeps, expects⟩ := thread
  obtain ⟨allowed, later⟩ := keeps answer
  have holds : own.Allows stage.role (Exchange.effect ⟨r, answer⟩) := by
    have thread := kept.thread
    rw [within] at thread
    exact (thread.1 answer).1
  obtain ⟨allowed, same, answered⟩ := mine.drained holds allowed answered
  have going : Event.exchanged (.kernel stage) ⟨r, answer⟩ ≠ .began := fun same => nomatch same
  have starts : ∀ due, mine = .opening due →
      (Event.exchanged (.kernel stage) ⟨r, answer⟩).ofStart := by
    rintro due rfl
    rw [Window.of_eq_absent (tallied.early rfl)] at expects
    obtain ⟨k, code, rfl⟩ := expects.opening
    trivial
  change (next answer).Keeps Tally.rules (mine.after (Exchange.effect ⟨r, answer⟩)) _ at later
  rw [same] at later ⊢
  exact ⟨⟨later, tallied.expects_after expects allowed⟩, tallied.drain, tallied.resting,
    tallied.late, tallied.early_after allowed going,
    tallied.memory_after kept allowed going answered,
    fun _ gave gone => tallied.last_after allowed going answered gave gone,
    tallied.accounts.exchange starts allowed answered going rfl⟩

end Exchange

/-- The kernel goes on to another stage, or the cell returns. -/
theorem turn (tallied : c.Tallied mine its) {thread : KernelThread} {next : Tally}
    (unknown : mine.known? = none) (opens : next = .free ∨ next = .fresh ∧ mine = .fresh)
    (tells : thread.Tells next (Window.of c.history)) :
    Tallied { c with thread := thread } next its := by
  have still : next.known? = none := by
    obtain rfl | ⟨rfl, -⟩ := opens <;> rfl
  refine ⟨tells, tallied.drain, tallied.resting, tallied.late, fun early => ?_, ?_,
    fun printed gave => ?_, tallied.accounts.of_late fun due same => ?_⟩
  · obtain rfl | ⟨rfl, rfl⟩ := opens
    · cases early
    · exact tallied.early rfl
  · have memory := tallied.memory
    rw [unknown] at memory
    rw [still]
    exact memory
  · obtain rfl | ⟨rfl, -⟩ := opens <;> cases gave
  · obtain rfl | ⟨rfl, -⟩ := opens <;> cases same

/-- The relay begins to drain. -/
theorem poll (tallied : c.Tallied mine its) (chunk : Nat) (resting : c.drain = none) :
    Tallied { c with drain := some (Streaming.drain chunk) } mine .free := by
  have memory := tallied.memory
  rw [tallied.resting resting] at memory
  refine ⟨tallied.thread, ?_, fun idle => (nomatch idle), rfl, tallied.early, memory, tallied.last,
    tallied.accounts⟩
  rintro _ ⟨⟩
  refine (Streaming.drain_tallies chunk).imp ?_
  rintro _ printed rfl
  rfl

/-- The relay takes part in an exchange. -/
theorem relayExchange (tallied : c.Tallied mine its) (kept : c.Kept own relay)
    {r : Host.Request} {next : Host.Answer r → Act Bool} {answer : Host.Answer r} {t : Shared}
    (underWay : c.drain = some (.ask r next))
    (answered : c.shared.Answers true (Exchange.effect ⟨r, answer⟩) t) :
    Tallied { c with
      drain := some (next answer)
      shared := t
      history := .exchanged .relay ⟨r, answer⟩ :: c.history }
      mine (its.after (Exchange.effect ⟨r, answer⟩)) := by
  obtain ⟨allowed, later⟩ := tallied.drain _ underWay answer
  have going : Event.exchanged .relay ⟨r, answer⟩ ≠ .began := fun same => nomatch same
  replace allowed : its.Allows (Event.exchanged .relay ⟨r, answer⟩).drained := allowed
  have running := Tally.running_of_late allowed tallied.late
  have polling : RelayTrace.of c.history = .polling ∧
      RelayTrace.of (.exchanged .relay ⟨r, answer⟩ :: c.history) = .polling :=
    ⟨kept.polling_of_drain underWay, (kept.relayExchange underWay answered).polling_of_drain rfl⟩
  refine ⟨?_, ?_, fun idle => (nomatch idle), ?_, fun early => ?_, ?_, fun _ _ gone => ?_, ?_⟩
  · rw [Window.of_cons going running]
    exact tallied.thread.other rfl trivial
  · rintro _ ⟨⟩
    exact later
  · exact (Tally.isEarly_after allowed running).trans tallied.late
  · have absent := tallied.early early
    rw [polling.1] at absent
    cases absent
  · refine (tallied.memory.symm.exchange allowed going running (fun early => ?_) answered).symm
    rw [tallied.late] at early
    cases early
  · exact absurd polling.2 gone
  · have late : ∀ due, its ≠ .opening due := by
      rintro due rfl
      cases tallied.late
    refine ((tallied.accounts.of_late late).exchange (fun due same => absurd same (late due))
      allowed answered going rfl).of_late ?_
    rintro due rfl
    have absent := tallied.early rfl
    rw [polling.1] at absent
    cases absent

/-- The relay has drained. -/
theorem rest (tallied : c.Tallied mine its) {printed : Bool}
    (ended : c.drain = some (.done printed)) : Tallied { c with drain := none } mine its where
  thread := tallied.thread
  drain := fun _ running => nomatch running
  resting := fun _ => tallied.drain _ ended
  late := tallied.late
  early := tallied.early
  memory := tallied.memory
  last := tallied.last
  accounts := tallied.accounts

/-- Every step keeps it, for what is known afterwards. -/
theorem step (tallied : c.Tallied mine its) (kept : c.Kept own relay) {d : Desk} (step : Step c d) :
    ∃ mine its, d.Tallied mine its := by
  have thread := tallied.thread
  cases step with
  | print text => exact ⟨_, _, tallied.print text⟩
  | begin k source parent idle => exact ⟨_, _, tallied.begin idle k source parent⟩
  | exchange answer t within answered => exact ⟨_, _, tallied.exchange kept within answered⟩
  | @advance stage later result within next =>
    rw [within] at thread
    obtain ⟨tells, expects⟩ := thread
    exact ⟨_, _, tallied.turn (CellStage.Tells.unknown tells) (CellStage.opens_of_next next tells)
      ⟨later.tallies, expects.next next tells⟩⟩
  | @finish stage result ending within next =>
    rw [within] at thread
    obtain ⟨tells, expects⟩ := thread
    refine ⟨_, _, tallied.turn (CellStage.Tells.unknown tells) (.inl rfl) ⟨rfl, ?_⟩⟩
    rintro last k ⟨⟩
    refine expects.ends next tells ?_
    rintro rfl
    exact Window.of_eq_absent (tallied.early rfl)
  | poll chunk polling resting => exact ⟨_, _, tallied.poll chunk resting⟩
  | relayExchange answer t underWay answered =>
    exact ⟨_, _, tallied.relayExchange kept underWay answered⟩
  | rest ended => exact ⟨_, _, tallied.rest ended⟩

end Tallied

/-- So every run keeps it. -/
theorem Reachable.tallied {c : Desk} (reach : c.Reachable) : ∃ mine its, c.Tallied mine its := by
  induction reach with
  | refl => exact ⟨_, _, .initial⟩
  | tail reach step ih =>
    obtain ⟨mine, its, tallied⟩ := ih
    obtain ⟨own, relay, kept⟩ := Reachable.kept reach
    exact tallied.step kept step

namespace Tallied

variable {c : Desk} {mine its : Tally} {own relay : Hold}

/-- The result of a cell tells what counted for it. -/
theorem printed_of_idle (tallied : c.Tallied mine its) {result : CellResult} {k : Kernel}
    (idle : c.thread = .idle (some (.ok result, k))) :
    match Window.of c.history with
    | .absent => result.printed = false
    | .opened _ _ => False
    | .closed _ during _ =>
      (∀ event ∈ during, event.untilFlush) ∧ (result.printed = true ↔ taken during ≠ []) := by
  have thread := tallied.thread
  rw [idle] at thread
  obtain ⟨absent, unprinted⟩ | counted := thread.2 result k rfl
  · rw [absent]
    exact unprinted
  · cases window : Window.of c.history with
    | closed before during later =>
      rw [window] at counted
      exact counted
    | _ =>
      rw [window] at counted
      cases counted

/-- Nobody holds the guard, so the relay remembers whether it had output. -/
theorem printed_of_unknown (tallied : c.Tallied mine its) (unknown : mine.known? = none)
    (resting : its.known? = none) (some : Window.of c.history ≠ .absent) :
    c.shared.printed = true ↔ taken (Window.of c.history).events ≠ [] := by
  have same := tallied.memory.same _ (Window.had?_of_ne_absent some)
  rw [unknown, resting] at same
  change c.shared.printed = _ at same
  rw [same]
  exact decide_eq_true_iff

/-- When the relay was stopped, it tells whether it had output. -/
theorem had_of_stopping (tallied : c.Tallied mine its) (kept : c.Kept own relay) {k : Kernel}
    {outcome : Except Error CellResult} {had : Bool}
    (stopping : c.thread = .within (.stopping k outcome) (.done had)) :
    match Window.of c.history with
    | .absent => False
    | .opened _ since => (∃ e, outcome = .error e) ∧ (had = true ↔ taken since ≠ [])
    | .closed _ during later => ∃ result, outcome = .ok result ∧
      (result.printed = true ↔ taken during ≠ []) ∧
      (had = true ↔ result.printed = true ∨ taken later ≠ []) := by
  have thread := tallied.thread
  rw [stopping] at thread
  obtain ⟨gave, expects⟩ := thread
  obtain rfl : mine = .gave had := gave
  have gone : RelayTrace.of c.history ≠ .polling := by
    have thread := kept.thread
    rw [stopping] at thread
    obtain ⟨⟨-, sweeping, -⟩, -⟩ := thread
    intro polling
    have phase := kept.phase.trans sweeping
    rw [polling] at phase
    cases phase
  have resting := kept.resting_of_ne_polling gone
  have remembers := tallied.printed_of_unknown rfl (tallied.resting resting)
  rw [tallied.last had rfl gone] at remembers
  cases outcome with
  | error e =>
    cases window : Window.of c.history with
    | opened before since =>
      rw [window] at remembers
      exact ⟨⟨e, rfl⟩, remembers (nomatch ·)⟩
    | _ =>
      rw [window] at expects
      cases expects
  | ok result =>
    cases window : Window.of c.history with
    | closed before during later =>
      rw [window] at remembers expects
      obtain ⟨-, counted⟩ := expects
      refine ⟨result, rfl, counted, (remembers (nomatch ·)).trans ?_⟩
      rw [counted]
      change taken (later ++ during) ≠ [] ↔ _
      rw [taken_append, ne_eq, List.append_eq_nil_iff, Decidable.not_and_iff_not_or_not]
    | _ =>
      rw [window] at expects
      cases expects

end Tallied

/-- Whether a cell printed is whether its relay took something since it was started and up to the
flush behind the evaluation, whoever drained and whether or not the text could be broadcast. Of what
a cell does, nothing but its evaluation and its flush falls into that time. A cell without a relay
did not print. Stopping the relay tells besides whether something was taken later, and between
drains the relay remembers just that. And unless a read of its start failed, what counts is a
stretch of the output behind all that was printed before the start began to read. -/
theorem Reachable.output_attributed {c : Desk} (reach : c.Reachable) :
    (∀ result k, c.thread = .idle (some (.ok result, k)) →
      match Window.of c.history with
      | .absent => result.printed = false
      | .opened _ _ => False
      | .closed _ during _ =>
        (∀ event ∈ during, event.untilFlush) ∧ (result.printed = true ↔ taken during ≠ [])) ∧
    (∀ k outcome had, c.thread = .within (.stopping k outcome) (.done had) →
      match Window.of c.history with
      | .absent => False
      | .opened _ since => (∃ e, outcome = .error e) ∧ (had = true ↔ taken since ≠ [])
      | .closed _ during later => ∃ result, outcome = .ok result ∧
        (result.printed = true ↔ taken during ≠ []) ∧
        (had = true ↔ result.printed = true ∨ taken later ≠ [])) ∧
    (c.shared.guarded = false → Window.of c.history ≠ .absent →
      (c.shared.printed = true ↔ taken (Window.of c.history).events ≠ [])) ∧
    ∀ before during later, Window.of c.history = .closed before during later →
      (∀ event ∈ sinceCount before, event.ofStart) ∧
      (Unfailed (sinceCount before) → ∃ skipped left, printed (during ++ before) =
        printed (beforeCount before) ++ skipped ++ taken during ++ left) := by
  obtain ⟨mine, its, tallied⟩ := reach.tallied
  obtain ⟨own, relay, kept⟩ := Reachable.kept reach
  refine ⟨fun _ _ idle => tallied.printed_of_idle idle,
    fun _ _ _ stopping => tallied.had_of_stopping kept stopping, fun free => ?_,
    fun _ _ _ window => tallied.accounts.of_closed window⟩
  have unknown := tallied.memory.guarded
  rw [free, eq_comm, Bool.or_eq_false_iff, Option.isSome_eq_false_iff, Option.isSome_eq_false_iff,
    Option.isNone_iff_eq_none, Option.isNone_iff_eq_none] at unknown
  exact tallied.printed_of_unknown unknown.1 unknown.2

/-- The target prints before a cell, while it is evaluated and behind its flush, and only the second
counts for the cell. -/
theorem Reachable.output_attributed_three_prints :
    ∃ (c : Desk) (result : CellResult) (k : Kernel) (before during later : List Event),
      c.Reachable ∧ c.thread = .idle (some (.ok result, k)) ∧
      Window.of c.history = .closed before during later ∧ Unfailed (sinceCount before) ∧
      printed (beforeCount before) = "a".toList ∧ taken during = "b".toList ∧
      taken later = "c".toList ∧ (result.printed = true ↔ taken during ≠ []) ∧
      (c.shared.printed = true ↔ taken (Window.of c.history).events ≠ []) ∧
      ∃ skipped left, printed (during ++ before) =
        printed (beforeCount before) ++ skipped ++ taken during ++ left := by
  have published : (QueuedMessage.publish default).Gives
      (evaluationLog TargetLanguage.swift.takeQueue (.error .disconnected) ++
        [⟨Host.Request.log (Log.error .kernel
          ("drain display messages: " ++ Error.disconnected.message)), ()⟩]) () :=
    .ask _ _ (.ask _ _ (.ask _ _ (.ask _ _ (.ask _ _ (.ask _ _ (.done _))))))
  have stopped : (Streaming.stop 1000).Gives
      (⟨Host.Request.stopPolling, ()⟩ :: drainLog true "c") true :=
    .ask _ _ (gives_drainLog (by decide) true)
  have flushing := ((Reachable.alone Reachable.evaluating rfl rfl (gives_valuelessLog "x")
    (answersAll_evaluationLog _ _ _)).tail (.print "b".toList)).tail (.advance rfl rfl)
  have publishing := Reachable.passes flushing rfl rfl (gives_drainLog (by decide) false)
    (answersAll_drainLog (by decide) rfl rfl) rfl
  have stopping := ((Reachable.alone publishing rfl rfl published
    (.cons rfl (.cons rfl (.cons rfl (.cons rfl (.cons rfl (.cons rfl (.nil _)))))))).tail
      (.print "c".toList)).tail (.advance rfl rfl)
  have idle := Reachable.returns stopping rfl rfl stopped
    (.cons ⟨rfl, rfl⟩ (answersAll_drainLog (by decide) rfl rfl)) rfl
  have attributed := Reachable.output_attributed idle
  exact ⟨_, _, _, _, _, _, idle, rfl, rfl, by decide, rfl, rfl, rfl, (attributed.1 _ _ rfl).2,
    attributed.2.2.1 rfl (nomatch ·), (attributed.2.2.2 _ _ _ rfl).2 (by decide)⟩

end Desk

end NotebookKernel
