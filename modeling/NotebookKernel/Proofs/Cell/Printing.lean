import NotebookKernel.Proofs.Cell.Expectations
import NotebookKernel.Proofs.Cell.Upkeep

/-!
Whether a cell printed, and what is reported about it.

A cell tells whether it had output, and a report of a failure depends on it. The kernel knows it
from the flush behind the evaluation: the relay remembers under its guard whether there was output,
and each drain adds what it took itself. `Upkeep.handsOn` says that the guard is one: it excludes,
and whoever takes it learns what was given back with it last. Then the cell printed just if text was
taken between the start of its relay and the end of that flush, by kernel or relay, in whatever
order the two took their turns (`Course.prints`). `Kernel.answerCell_published` is the statement
about the reply to a cell and all that is broadcast in its course.
-/

namespace NotebookKernel

/-! ## The guard -/

namespace Upkeep

/-- Whoever takes the guard finds it free and learns what the relay remembers. -/
def lets (u : Upkeep) : Exchange Host → Bool
  | ⟨.takeGuard, printed⟩ => !u.guarded && printed == u.printed
  | _ => true

/-- The guard excludes, and hands on what was given back with it. -/
def handsOn (u : Upkeep) : List Turn → Bool
  | [] => true
  | turn :: rest => u.lets turn.exchange && (u.after turn.exchange).handsOn rest

/-- What kernel, relay and target share, as far as the guard goes. -/
def shared (u : Upkeep) (captured : List Char) : Shared where
  captured
  polling := false
  guarded := u.guarded
  printed := u.printed

variable {u : Upkeep} {first second : List Turn}

theorem handsOn_append :
    u.handsOn (first ++ second) = (u.handsOn first && (u.afterAll first).handsOn second) := by
  induction first generalizing u with
  | nil => rfl
  | cons turn rest ih =>
    rw [List.cons_append, handsOn, ih, ← Bool.and_assoc]
    rfl

theorem of_handsOn_append (handed : u.handsOn (first ++ second) = true) :
    u.handsOn first = true ∧ (u.afterAll first).handsOn second = true := by
  rwa [handsOn_append, Bool.and_eq_true] at handed

/-- An exchange that the guard lets pass is one between kernel, relay and target. -/
theorem answers_of_lets {exchange : Exchange Host} (lets : u.lets exchange = true)
    (running : exchange.effect ≠ .started) :
    ∃ captured left,
      (u.shared captured).Answers false exchange.effect ((u.after exchange).shared left) := by
  obtain ⟨r, answer⟩ := exchange
  cases r with
  | debugger r =>
    cases r with
    | takeOutput limit =>
      cases answer with
      | ok text => exact ⟨text.toList, [], (List.append_nil _).symm, id, rfl⟩
      | error e => exact ⟨[], [], rfl⟩
    | unreadOutput => exact ⟨[], [], Nat.zero_le _, rfl⟩
    | _ => exact ⟨[], [], rfl⟩
  | broadcast m =>
    cases m with
    | parts _ => exact ⟨[], [], rfl⟩
    | notification n => cases n <;> cases answer <;> exact ⟨[], [], rfl⟩
  | startPolling =>
    cases answer with
    | ok _ => exact absurd rfl running
    | error e => exact ⟨[], [], rfl⟩
  | stopPolling => exact ⟨[], [], rfl, rfl⟩
  | takeGuard =>
    obtain ⟨free, same⟩ : _ ∧ _ := by simpa [Upkeep.lets] using lets
    exact ⟨[], [], free, same, rfl⟩
  | _ => exact ⟨[], [], rfl⟩

end Upkeep

/-- Text was taken in one of these turns. -/
def tookSome (log : List Turn) : Bool :=
  log.any fun turn => turn.exchange.effect.takes

theorem tookSome_cons (turn : Turn) (log : List Turn) :
    tookSome (turn :: log) = (turn.exchange.effect.takes || tookSome log) :=
  rfl

theorem tookSome_append (first second : List Turn) :
    tookSome (first ++ second) = (tookSome first || tookSome second) :=
  List.any_append

/-- The memory is handed on through the guard. -/
theorem Memory.handed {u : Upkeep} {tally : Tally} {other? : Option Bool} {had : Bool}
    {exchange : Exchange Host} (memory : Memory (u.shared []) tally.known? other? (some had))
    (allowed : tally.Allows exchange.effect) (late : tally.isEarly = false)
    (lets : u.lets exchange = true) :
    Memory ((u.after exchange).shared []) (tally.after exchange.effect).known? other?
      (some (had || exchange.effect.takes)) := by
  have running := Tally.running_of_late allowed late
  obtain ⟨captured, left, answered⟩ := Upkeep.answers_of_lets lets running
  -- the memory has nothing to do with what is captured
  have before : Memory (u.shared captured) tally.known? other? (some had) :=
    ⟨memory.guarded, memory.apart, memory.same⟩
  have after := before.after allowed running (fun early => nomatch late.symm.trans early) answered
  exact ⟨after.guarded, after.apart, after.same⟩

/-! ## The kernel beside a relay with a memory -/

/-- What the kernel and its relay know while there is one, and whether something was taken since it
was started. -/
structure Relay.Tallied (c : Relay) (u : Upkeep) (mine its : Tally) (had : Bool) : Prop where
  memory : Memory (u.shared []) mine.known? its.known? (some had)
  drain : ∀ rest, c.drain = some rest →
    rest.Keeps Tally.rules its fun t printed => t = .gave printed
  resting : c.drain = none → its.known? = none
  mineLate : mine.isEarly = false
  itsLate : its.isEarly = false

namespace Relay.Tallied

variable {c d : Relay} {u : Upkeep} {mine its : Tally} {had : Bool} {log : List Turn}

/-- When a relay starts nothing was taken yet. -/
theorem started (u : Upkeep) :
    Relay.Tallied (Relay.absent.after ⟨.startPolling, .ok ()⟩)
      (u.after ⟨.startPolling, .ok ()⟩) .free .free false where
  memory := ⟨rfl, .inl rfl, fun _ same => Option.some.inj same⟩
  drain _ underWay := nomatch underWay
  resting _ := rfl
  mineLate := rfl
  itsLate := rfl

/-- The kernel takes part in an exchange. -/
theorem own (tallied : c.Tallied u mine its had) {exchange : Exchange Host}
    (allowed : mine.Allows exchange.effect) (lets : u.lets exchange = true) :
    (c.after exchange).Tallied (u.after exchange) (mine.after exchange.effect) its
      (had || exchange.effect.takes) where
  memory := tallied.memory.handed allowed tallied.mineLate lets
  drain := by
    rw [c.after_drain]
    exact tallied.drain
  resting := by
    rw [c.after_drain]
    exact tallied.resting
  mineLate := by
    rw [Tally.isEarly_after allowed (Tally.running_of_late allowed tallied.mineLate)]
    exact tallied.mineLate
  itsLate := tallied.itsLate

/-- The relay begins to drain. -/
theorem poll (tallied : c.Tallied u mine its had) (chunk : Nat) (resting : c.drain = none) :
    Relay.Tallied { c with drain := some (Streaming.drain chunk) } u mine .free had := by
  have memory := tallied.memory
  rw [tallied.resting resting] at memory
  refine ⟨memory, ?_, nofun, tallied.mineLate, rfl⟩
  rintro _ ⟨⟩
  exact Streaming.drain_tallies chunk

/-- The relay takes part in an exchange. -/
theorem ask (tallied : c.Tallied u mine its had) {r : Host.Request}
    {next : Host.Answer r → Act Bool} {answer : Host.Answer r}
    (underWay : c.drain = some (.ask r next)) (lets : u.lets ⟨r, answer⟩ = true) :
    Relay.Tallied { c with drain := some (next answer) } (u.after ⟨r, answer⟩) mine
      (its.after (Exchange.effect ⟨r, answer⟩)) (had || (Exchange.effect ⟨r, answer⟩).takes) := by
  obtain ⟨allowed, later⟩ := tallied.drain _ underWay answer
  refine ⟨(tallied.memory.symm.handed allowed tallied.itsLate lets).symm, ?_, nofun,
    tallied.mineLate, ?_⟩
  · rintro _ ⟨⟩
    exact later
  · rw [Tally.isEarly_after allowed (Tally.running_of_late allowed tallied.itsLate)]
    exact tallied.itsLate

/-- What the relay does by itself it keeps in mind. -/
theorem moves (tallied : c.Tallied u mine its had) (moves : c.Moves log d)
    (handed : u.handsOn log = true) :
    ∃ its, d.Tallied (u.afterAll log) mine its (had || tookSome log) := by
  induction moves generalizing u its had with
  | refl c =>
    rw [tookSome, List.any_nil, Bool.or_false]
    exact ⟨its, tallied⟩
  | poll chunk polling resting _ ih => exact ih (tallied.poll chunk resting) handed
  | ask answer underWay _ ih =>
    obtain ⟨lets, later⟩ := Bool.and_eq_true_iff.mp handed
    have tallied := tallied.ask underWay lets
    rw [tookSome_cons, ← Bool.or_assoc]
    exact ih tallied later
  | rest ended _ ih =>
    obtain rfl := tallied.drain _ ended
    exact ih ⟨tallied.memory, nofun, fun _ => rfl, tallied.mineLate, rfl⟩ handed

end Relay.Tallied

/-- A program of the kernel that keeps its tally knows in the end what was taken, by itself or by
the relay beside it. -/
theorem Beside.tallied {α : Type} {c d : Relay} {p : Act α} {log : List Turn} {a : α} {u : Upkeep}
    {mine its : Tally} {had : Bool} {Q : Tally → α → Prop} (run : Beside c p log d a)
    (keeps : p.Keeps Tally.rules mine Q) (tallied : c.Tallied u mine its had)
    (handed : u.handsOn log = true) :
    ∃ mine its, Q mine a ∧ d.Tallied (u.afterAll log) mine its (had || tookSome log) := by
  induction run generalizing u mine its had with
  | done c a =>
    rw [tookSome, List.any_nil, Bool.or_false]
    exact ⟨mine, its, keeps, tallied⟩
  | ask answer moves permits later ih =>
    obtain ⟨moved, handed⟩ := Upkeep.of_handsOn_append handed
    obtain ⟨lets, handed⟩ := Bool.and_eq_true_iff.mp handed
    obtain ⟨its, tallied⟩ := tallied.moves moves moved
    obtain ⟨allowed, keeps⟩ := keeps answer
    obtain ⟨mine, its, ends, tallied⟩ := ih keeps (tallied.own allowed lets) handed
    rw [Upkeep.afterAll_append, tookSome_append, tookSome_cons, ← Bool.or_assoc, ← Bool.or_assoc]
    exact ⟨mine, its, ends, tallied⟩

/-! ## The flush -/

namespace Streaming

variable {chunk : Nat}

/-- A drain up to where it gives the guard back. -/
def drainHeld (chunk : Nat) : Act Bool := do
  let before ← Act.host .takeGuard
  let more ← broadcastUnread chunk
  pure (before || more)

theorem drain_eq (chunk : Nat) :
    drain chunk = (drainHeld chunk).bind fun printed =>
      .ask (.releaseGuard printed) fun _ => .done printed := by
  change Program.ask _ _ = Program.ask _ _
  congr 1
  funext before
  change (broadcastUnread chunk).bind _ = ((broadcastUnread chunk).bind _).bind _
  rw [Program.bind_assoc]
  rfl

theorem drainHeld_tallies :
    (drainHeld chunk).Keeps Tally.rules .free fun t printed => t = .holding printed := by
  intro before
  refine ⟨rfl, (broadcastUnread_holding chunk before).bind ?_⟩
  rintro _ more rfl
  rfl

theorem drainHeld_asks (chunk : Nat) :
    (drainHeld chunk).Asks fun r : Host.Request => r = .takeGuard ∨ r.Takes :=
  ⟨.inl rfl, fun _ => ((broadcastUnread_takes chunk).mono fun _ => .inr).bind fun _ => trivial⟩

end Streaming

/-- A drain of the kernel ends when it gives the guard back, with what it tells. -/
theorem Beside.of_drain {c d : Relay} {chunk : Nat} {log : List Turn} {printed : Bool}
    (run : Beside c (Streaming.drain chunk) log d printed) :
    ∃ reading moved e,
      log = reading ++ moved ++ [.own ⟨.releaseGuard printed, ()⟩] ∧
      Beside c (Streaming.drainHeld chunk) reading e printed ∧ e.Moves moved d := by
  rw [Streaming.drain_eq] at run
  obtain ⟨reading, _, e, had, rfl, reads, gives⟩ := run.of_bind
  cases gives with
  | ask answer moves permits later =>
    obtain ⟨rfl, rfl, rfl⟩ := later.of_done
    exact ⟨reading, _, e, (List.append_assoc ..).symm, reads, moves⟩

/-! ## The cell -/

/-- Whether a cell printed. What counts are the turns between the start of its relay and the end of
the flush behind the evaluation, which is where the kernel gives the guard back for the first time.
If the guard hands on, the cell printed just if text was taken in these turns. -/
inductive Prints : List Turn → Bool → Prop
  | intro {before during after : List Turn} {printed : Bool} :
    (∀ turn ∈ before, turn.byRelay = false ∧ ¬ turn.request.Switches) →
      (∀ turn ∈ during, turn.byRelay = false → turn.exchange.effect.unlocks = false) →
      (∀ u : Upkeep, u.handsOn (before ++ .own ⟨.startPolling, .ok ()⟩ :: during) = true →
        printed = tookSome during) →
      Prints (before ++ .own ⟨.startPolling, .ok ()⟩ :: during ++
        .own ⟨.releaseGuard printed, ()⟩ :: after) printed

/-- The kernel may do something else before it starts the relay. -/
theorem Prints.prepend {first second : List Turn} {printed : Bool} (prints : Prints second printed)
    (quiet : ∀ turn ∈ first, turn.byRelay = false ∧ ¬ turn.request.Switches) :
    Prints (first ++ second) printed := by
  obtain ⟨early, kept, told⟩ := prints
  rw [← List.append_assoc, ← List.append_assoc]
  refine .intro (List.forall_mem_append.mpr ⟨quiet, early⟩) kept fun u handed => ?_
  rw [List.append_assoc] at handed
  exact told _ (Upkeep.of_handsOn_append handed).2

/-- Only the release of the guard unlocks it. -/
theorem Exchange.unlocks_eq_false {exchange : Exchange Host}
    (other : ∀ had, exchange.request ≠ .releaseGuard had) : exchange.effect.unlocks = false := by
  obtain ⟨r, answer⟩ := exchange
  cases r with
  | debugger r => cases r <;> first | rfl | cases answer <;> rfl
  | broadcast m =>
    cases m with
    | parts _ => rfl
    | notification n => cases n <;> cases answer <;> rfl
  | startPolling => cases answer <;> rfl
  | releaseGuard had => exact absurd rfl (other had)
  | _ => rfl

namespace Course

variable {k k' : Kernel} {c d : Relay} {stage : CellStage} {log before : List Turn}
  {result : Outcome} {printed : Bool}

/-- Up to the end of its flush the kernel keeps the guard that it took. -/
theorem holds_executing {code : String} {started e f : Relay} {executed reading moved : List Turn}
    {outcome : Except Error Outcome}
    (run : Beside started (CellStage.executing k code).program executed e outcome)
    (drains : started.Drains)
    (reads : Beside e (Streaming.drainHeld k.chunkSize) reading f printed) (moves : f.Moves moved d) :
    ∀ turn ∈ executed ++ (reading ++ moved), turn.byRelay = false →
      turn.exchange.effect.unlocks = false := by
  have executes := run.own_requests drains (k.execute_asks code)
  have drains' := (run.relay_drains drains).1
  have flushes := reads.own_requests drains' (Streaming.drainHeld_asks k.chunkSize)
  refine fun turn mem byRelay => Exchange.unlocks_eq_false fun had same => ?_
  rcases List.mem_append.mp mem with mem | mem
  · have asks := executes turn mem byRelay
    rw [Turn.request, same] at asks
    cases asks
  · rcases List.mem_append.mp mem with mem | mem
    · have asks := flushes turn mem byRelay
      rw [Turn.request, same] at asks
      rcases asks with asks | asks <;> cases asks
    · have relay := ((moves.drains (reads.relay_drains drains').1).2 turn mem).1
      rw [byRelay] at relay
      cases relay

/-- The flush tells whether the kernel or the relay took anything since the relay was started. -/
theorem printed_of_executing {code : String} {e f : Relay} {executed reading moved : List Turn}
    {outcome : Except Error Outcome} {u : Upkeep}
    (run : Beside (Relay.absent.after ⟨.startPolling, .ok ()⟩) (CellStage.executing k code).program
      executed e outcome)
    (reads : Beside e (Streaming.drainHeld k.chunkSize) reading f printed) (moves : f.Moves moved d)
    (handed : u.handsOn (.own ⟨.startPolling, .ok ()⟩ :: (executed ++ (reading ++ moved))) = true) :
    printed = tookSome (executed ++ (reading ++ moved)) := by
  obtain ⟨-, handed⟩ := Bool.and_eq_true_iff.mp handed
  obtain ⟨here, handed⟩ := Upkeep.of_handsOn_append handed
  obtain ⟨there, handed⟩ := Upkeep.of_handsOn_append handed
  obtain ⟨_, its, rfl, tallied⟩ := run.tallied (CellStage.tallies _) (Relay.Tallied.started _) here
  obtain ⟨_, its, rfl, tallied⟩ := reads.tallied Streaming.drainHeld_tallies tallied there
  obtain ⟨its, tallied⟩ := tallied.moves moves handed
  rw [tookSome_append, tookSome_append, ← Bool.or_assoc]
  exact tallied.memory.same _ rfl

/-- From the start of its relay on, the kernel learns from the flush what was taken. -/
theorem prints_of_executing {code : String}
    (course : Course (Relay.absent.after ⟨.startPolling, .ok ()⟩) (.executing k code) log d
      (.ok ⟨result, printed⟩, k'))
    (quiet : ∀ turn ∈ before, turn.byRelay = false ∧ ¬ turn.request.Switches) :
    Prints (before ++ .own ⟨.startPolling, .ok ()⟩ :: log) printed := by
  have drains := Relay.absent_drains.after ⟨.startPolling, .ok ()⟩
  cases course with
  | @last _ _ _ _ outcome _ run next => cases outcome <;> cases next
  | @more _ _ _ _ _ executed _ outcome _ run next later =>
    have drains' := (run.relay_drains drains).1
    cases outcome with
    | error e =>
      cases next
      cases (later.of_stopping drains').1
    | ok outcome =>
      cases next
      obtain ⟨_, rest, _, _, rfl, flush, ended, -⟩ := later.of_flushing drains'
      cases ended
      obtain ⟨reading, moved, _, rfl, reads, moves⟩ := flush.of_drain
      have whole : before ++ .own ⟨.startPolling, .ok ()⟩ :: (executed ++
            (reading ++ moved ++ [.own ⟨.releaseGuard printed, ()⟩] ++ rest)) =
          before ++ .own ⟨.startPolling, .ok ()⟩ :: (executed ++ (reading ++ moved)) ++
            .own ⟨.releaseGuard printed, ()⟩ :: rest := by
        simp
      rw [whole]
      exact .intro quiet (holds_executing run drains reads moves) fun u handed =>
        printed_of_executing run reads moves (Upkeep.of_handsOn_append handed).2

/-- A cell that comes to a result printed what its relay and its flush took, unless it could not be
expanded. -/
theorem prints {ending : CellStage.Ending} (course : Course c stage log d ending)
    (absent : stage.entry = .absent) (start : c = .absent)
    (same : ending = (.ok ⟨result, printed⟩, k')) :
    (∃ e, result = .notExpanded e ∧ printed = false) ∨ Prints log printed := by
  induction course with
  | @last c d stage log left ending run next =>
    subst same
    cases stage with
    | announcing k source parent => cases left <;> cases next
    | expanding k source =>
      obtain ⟨expanded, l⟩ := left
      cases expanded with
      | error e =>
        cases next
        exact .inl ⟨e, rfl, rfl⟩
      | ok code => cases next
    | starting k code => cases left <;> cases next
    | _ => cases absent
  | @more c d e stage later first rest left ending run next course ih =>
    subst start
    have entry := CellStage.entry_of_next next
    cases stage with
    | announcing _ _ _ | expanding _ _ =>
      obtain ⟨rfl, quiet⟩ := run.alone_steady (CellStage.asks_mayAsk _)
        fun _ asks => asks.steady nofun
      exact (ih entry rfl same).imp_right fun prints => prints.prepend quiet
    | starting k code =>
      obtain ⟨reads, quiet, rfl, rfl⟩ := run.start_turns
      subst same
      cases left with
      | error e => cases next
      | ok _ =>
        cases next
        rw [List.append_assoc]
        exact .inr (course.prints_of_executing quiet)
    | _ => cases absent

end Course

/-! ## The reply to a cell -/

namespace Kernel

/-- The reply to a cell agrees with what is broadcast, if the channel takes everything. What comes of
the cell is what the target answered or, when no relay could be started, that fault, and it printed
if its relay or its flush took text. -/
theorem answerCell_published {k k' : Kernel} {source : String} {parent : Json} {log : List Turn}
    {d : Relay} {reply : ExecuteReply}
    (run : Beside .absent ((answerCell source parent).run k) log d (reply, k'))
    (accepted : ∀ turn ∈ log, turn.exchange.refused = false) :
    ∃ (cell : List Turn) (closing : List (Exchange Host)) (outcome : Except Error CellResult),
      log = cell ++ closing.map .own ∧ d = .absent ∧
      Beside .absent ((runCell source parent).run.run k) cell .absent (outcome, k') ∧
      k' = { k with completion := k'.completion } ∧
      k.ComesTo source parent cell (outcome.map CellResult.result) ∧
      (∀ e printed, outcome = .ok ⟨.notExpanded e, printed⟩ → '\n' ∉ e.message.toList) ∧
      (∀ result printed, outcome = .ok ⟨result, printed⟩ →
        (∃ e, result = .notExpanded e ∧ printed = false) ∨ Prints cell printed) ∧
      reply.Agrees k log closing outcome := by
  rw [answerCell_eq] at run
  obtain ⟨cell, _, middle, ⟨outcome, after⟩, rfl, ran, reported⟩ := run.of_bind
  have course := (CellStage.whole_announcing k source parent ▸ ran).course
  obtain rfl : middle = .absent := course.ends_absent fun _ => rfl
  obtain ⟨noResults, noErrors⟩ := course.results_eq_nil Relay.absent_drains
  obtain ⟨comes, completion, rfl⟩ := course.comesTo
  obtain ⟨closing, _, _, _, rfl, report, done⟩ := reported.of_bind
  obtain ⟨rfl, rfl, same⟩ := done.of_done
  cases same
  rw [List.append_nil] at accepted ⊢
  obtain ⟨rfl, turns, -⟩ := report.alone rfl (report_asks _ _) id
  have gives := report.gives Relay.absent_drains
  generalize owned closing = exchanges at turns gives
  subst turns
  have taken : ∀ exchange ∈ exchanges, exchange.refused = false := fun exchange mem =>
    accepted (.own exchange) (List.mem_append_right _ (List.mem_map_of_mem mem))
  refine ⟨cell, exchanges, outcome, rfl, rfl, ran, rfl, comes, ?_, ?_, ?_⟩
  · rintro e printed rfl
    exact comes.oneLine
  · rintro result printed rfl
    exact course.prints rfl rfl rfl
  · exact report_agrees noResults noErrors gives taken

/-- A cell that prints and then fails, in a frame of its own that was called by library code. -/
theorem answerCell_published_failed :
    ∃ (log cell : List Turn) (closing : List (Exchange Host)) (d : Relay),
      Beside .absent ((answerCell "x" .null).run default) log d
        (.error 0 ⟨"", "", ["Current stack trace:", "\tmain"]⟩, default) ∧
      (∀ turn ∈ log, turn.exchange.refused = false) ∧
      log = cell ++ closing.map .own ∧ Upkeep.handsOn default log = true ∧ Prints cell true ∧
      results log = [] ∧ errors log = [⟨"", "", ["Current stack trace:", "\tmain"]⟩] := by
  have gives : ((answerCell "x" .null).run default).Gives
      ((default : Kernel).submission (TargetLanguage.swift.setContext "null") .valueless ++
        Streaming.emptyRead ++ ⟨Host.Request.startPolling, .ok ()⟩ ::
        (default : Kernel).submission "x" ⟨.ok (.failed ⟨0, 1⟩), .ok ⟨"", none, some "crash"⟩⟩ ++
        ⟨Host.Request.takeGuard, false⟩ :: Desk.readLog "a" ++
        [⟨Host.Request.releaseGuard true, ()⟩, ⟨Host.Request.stopPolling, ()⟩,
          ⟨Host.Request.takeGuard, true⟩] ++ Streaming.emptyRead ++
        [⟨Host.Request.releaseGuard true, ()⟩,
          ⟨Host.Request.debugger (.frames default), Except.ok
            [⟨"main", some "<Cell 0>", some 1⟩, ⟨"map", some "<compiler-generated>", none⟩]⟩,
          ⟨Host.Request.broadcast (.notification
            (.error ⟨"", "", ["Current stack trace:", "\tmain"]⟩)), .ok ()⟩])
      (.error 0 ⟨"", "", ["Current stack trace:", "\tmain"]⟩, default) := by
    repeat apply Program.Gives.ask
    exact .done _
  have run := Beside.of_gives gives (c := .absent) rfl
  obtain ⟨cell, closing, outcome, split, -, -, -, -, -, prints, -, none, one, -, traceback, same,
    explains⟩ := answerCell_published run (by decide)
  obtain rfl : _ = traceback := congrArg ErrorReport.traceback same
  have printed : Prints cell true := by
    generalize lines : ["Current stack trace:", "\tmain"] = traceback at explains
    cases explains with
    | traced value frames _ =>
      obtain ⟨_, other, -⟩ | prints := prints _ _ rfl
      · cases other
      · exact prints
    | _ => cases congrArg List.length lines
  exact ⟨_, cell, closing, _, run, by decide, split, by decide, printed, none, one⟩

end Kernel

end NotebookKernel
