import NotebookKernel.Proofs.Cell.Availability
import NotebookKernel.Proofs.Cell.StageLogs

/-!
What a cell takes hold of, it gives back.

While a kernel works on a cell it takes the evaluation lock, raises the flag of an evaluation in
flight and starts a relay for the output, and any of its calls may fail in between. `Grip.rules` is
how it goes about the lock and the flag; all parts of a cell keep to it and leave both as they found
them. `OneRelay` is how its relay comes and goes. `CellRun.Possible.leavesNothing` puts the two
together.
-/

namespace NotebookKernel

/-! ## Lock, flag and guard -/

/-- What a kernel has taken hold of. -/
structure Grip where
  /-- It holds the evaluation lock. -/
  locked : Bool
  /-- It has raised the flag of an evaluation in flight. -/
  busy : Bool
  /-- It has started a relay. -/
  started : Bool

namespace Grip

/-- Neither the lock nor the flag is taken. -/
def Loose (g : Grip) : Prop :=
  g.locked = false ∧ g.busy = false

/-- The lock is not taken twice, and given back when the flag is down; the flag belongs to the
holder of the lock, and the guard to a relay that was started. -/
def rules : Conduct Host Grip where
  allows g exchange :=
    match exchange.request with
    | .lockTarget => g.locked = false
    | .unlockTarget => g.locked = true ∧ g.busy = false
    | .setBusy _ => g.locked = true
    | .takeGuard | .releaseGuard _ => g.started = true
    | _ => True
  after g
    | ⟨.lockTarget, ()⟩ => { g with locked := true }
    | ⟨.unlockTarget, ()⟩ => { g with locked := false }
    | ⟨.setBusy busy, ()⟩ => { g with busy }
    | ⟨.startPolling, .ok ()⟩ => { g with started := true }
    | _ => g

end Grip

namespace Host.Request

/-- The request has to do with neither lock nor flag nor guard, and starts no relay. -/
def Aloof : Host.Request → Prop
  | .lockTarget | .unlockTarget | .setBusy _ => False
  | .takeGuard | .releaseGuard _ | .startPolling => False
  | _ => True

variable {r : Host.Request}

theorem Aloof.calm (aloof : r.Aloof) (g : Grip) (answer : Host.Answer r) :
    Grip.rules.allows g ⟨r, answer⟩ ∧ Grip.rules.after g ⟨r, answer⟩ = g := by
  cases r <;> first | exact ⟨trivial, rfl⟩ | cases aloof

theorem Expands.aloof (expands : r.Expands) : r.Aloof := by
  cases r <;> trivial

theorem Forwards.aloof (forwards : r.Forwards) : r.Aloof := by
  cases r <;> trivial

theorem Takes.aloof (takes : r.Takes) : r.Aloof := by
  cases r <;> trivial

theorem Reports.aloof (reports : r.Reports) : r.Aloof := by
  cases r <;> trivial

/-- A drain needs the guard of a relay, and nothing else. -/
theorem Drains.calm (drains : r.Drains) {g : Grip} (started : g.started = true)
    (answer : Host.Answer r) :
    Grip.rules.allows g ⟨r, answer⟩ ∧ Grip.rules.after g ⟨r, answer⟩ = g := by
  cases r <;> first | exact ⟨trivial, rfl⟩ | exact ⟨started, rfl⟩ | cases drains

end Host.Request

/-- The program gives back what it takes hold of. -/
def Program.Restores {α : Type} (p : Act α) : Prop :=
  ∀ g : Grip, g.Loose → p.Keeps Grip.rules g fun t _ => t = g

open Host.Request

namespace Program

variable {α β : Type}

theorem Restores.bind {p : Act α} {f : α → Act β} (restores : p.Restores)
    (later : ∀ a, (f a).Restores) : (p.bind f).Restores := by
  intro g loose
  apply (restores g loose).bind
  rintro _ a rfl
  exact later a _ loose

theorem Restores.bindExcept {p : Action α} {f : α → Action β} (restores : p.run.Restores)
    (later : ∀ a, (f a).run.Restores) : (p >>= f).run.Restores := by
  apply Restores.bind restores
  intro result
  cases result with
  | ok a => exact later a
  | error e => exact fun _ _ => rfl

theorem Asks.restores {p : Act α} (asks : p.Asks Aloof) : p.Restores :=
  fun g _ => asks.keeps fun _ aloof => aloof.calm g

end Program

/-- The lock is given back whatever came of the action. -/
theorem Act.withTargetLock_restores {α : Type} {p : Act α} (asks : p.Asks Aloof) :
    (Act.withTargetLock p).Restores := by
  rintro ⟨_, _, started⟩ ⟨rfl, rfl⟩ _
  refine ⟨rfl, (asks.keeps fun _ aloof => aloof.calm _).bind ?_⟩
  rintro _ a rfl _
  exact ⟨⟨rfl, rfl⟩, rfl⟩

/-! ## The parts of a cell run -/

theorem Session.evaluate_restores (s : Session) (code : String) :
    (s.evaluate code).run.Restores := by
  rintro ⟨_, _, started⟩ ⟨rfl, rfl⟩
  exact fun _ => ⟨rfl, fun _ => ⟨rfl, fun _ => ⟨trivial, fun _ => ⟨rfl, fun _ =>
    ⟨⟨rfl, rfl⟩, rfl⟩⟩⟩⟩⟩

namespace Kernel

theorem execute_restores (k : Kernel) (code : String) : (k.execute code).run.Restores := by
  have described : ∀ handle, (Session.describe handle).run.Restores :=
    fun _ => Program.Asks.restores ⟨trivial, fun _ => trivial⟩
  refine Program.Restores.bindExcept (k.session.evaluate_restores _) fun evaluation => ?_
  cases evaluation with
  | valueless => exact fun _ _ => rfl
  | value handle => exact .bindExcept (described handle) fun _ _ _ => rfl
  | failed handle => exact .bindExcept (described handle) fun _ _ _ => rfl

theorem announceRequest_restores (k : Kernel) (parent : Json) :
    (k.announceRequest parent).run.Restores := by
  refine Program.Restores.bindExcept (k.execute_restores _) fun result => ?_
  cases result.failureText <;> exact fun _ _ => rfl

end Kernel

namespace QueuedMessage

theorem bytesAt_restores (address : Nat) (length : Int) :
    (bytesAt address length).run.Restores := by
  unfold bytesAt
  split
  · exact fun _ _ => rfl
  · split
    · exact fun _ _ => rfl
    · exact Act.withTargetLock_restores ⟨trivial, fun _ => trivial⟩

theorem readPart_restores (s : Session) (part : Handle) : (readPart s part).run.Restores := by
  have member : ∀ name, (Session.member part name).run.Restores := by
    intro name
    apply Program.Asks.restores
    refine Program.Asks.bindExcept ⟨trivial, fun _ => trivial⟩ fun found => ?_
    cases found <;> trivial
  have storage : ∀ handle, (Session.storage handle).run.Restores :=
    fun _ => Program.Asks.restores ⟨trivial, fun _ => trivial⟩
  have lifted : ∀ {α : Type} (result : Except Error α),
      (liftExcept result : Action α).run.Restores :=
    fun _ => Program.Asks.restores liftExcept_asks
  refine .bindExcept (member _) fun position => ?_
  refine .bindExcept (storage _) fun stored => ?_
  refine .bindExcept (lifted _) fun address => ?_
  refine .bindExcept (member _) fun count => ?_
  refine .bindExcept (storage _) fun stored => ?_
  refine .bindExcept (lifted _) fun width => ?_
  exact .bindExcept (lifted _) fun length => bytesAt_restores _ _

theorem readParts_restores (s : Session) (parts : List Handle) :
    (readParts s parts).run.Restores := by
  induction parts with
  | nil => exact fun _ _ => rfl
  | cons part rest ih =>
    refine .bindExcept (readPart_restores s part) fun _ => ?_
    exact .bindExcept ih fun _ _ _ => rfl

theorem readAll_restores (s : Session) (payloads : List Handle) :
    (readAll s payloads).Restores := by
  induction payloads with
  | nil => exact fun _ _ => rfl
  | cons payload rest ih =>
    have children : (Session.children payload).run.Restores :=
      Program.Asks.restores ⟨trivial, fun _ => trivial⟩
    refine .bind (.bindExcept children (readParts_restores s)) fun message => ?_
    cases message with
    | ok message => exact ih.bind fun _ _ _ => rfl
    | error e => exact fun g loose _ => ⟨trivial, ih g loose⟩

theorem readQueue_restores (s : Session) (queue : Handle) : (readQueue s queue).Restores := by
  intro g loose payloads
  refine ⟨trivial, ?_⟩
  cases payloads with
  | ok payloads => exact readAll_restores s payloads g loose
  | error e => exact fun _ => ⟨trivial, rfl⟩

theorem publish_restores (k : Kernel) : (publish k).Restores := by
  have logged : ∀ record, (do Act.log record; pure [] : Act (List QueuedMessage)).Restores :=
    fun _ => Program.Asks.restores ⟨trivial, fun _ => trivial⟩
  have drained : (drain k).Restores := by
    refine .bind (k.execute_restores _) fun result => ?_
    cases result with
    | error e => exact logged _
    | ok result =>
      cases result with
      | gave queue => exact readQueue_restores _ _
      | finished => exact logged _
      | notExpanded e => exact logged _
      | failed value => exact logged _
  refine drained.bind fun messages => ?_
  exact ((broadcastAll_asks messages).mono fun _ forwards => forwards.aloof).restores

end QueuedMessage

/-! ## The stages of a cell -/

/-- What is held between two stages of a cell. -/
structure Grip.Fits (g : Grip) (phase : Phase) : Prop where
  loose : g.Loose
  started : phase ≠ .absent → g.started = true

namespace CellStage

theorem keeps_grip (stage : CellStage) {g : Grip} (fits : g.Fits stage.entry) :
    stage.program.Keeps Grip.rules g fun t result => t.Fits (stage.exit result) := by
  have still : ∀ {p : Act stage.Result}, p.Restores →
      (∀ result, stage.exit result = stage.entry) →
      p.Keeps Grip.rules g fun t result => t.Fits (stage.exit result) := by
    intro p restores same
    apply (restores g fits.loose).imp
    rintro _ result rfl
    rw [same]
    exact fits
  cases stage with
  | announcing k source parent => exact still (k.announceRequest_restores parent) fun _ => rfl
  | expanding k source =>
    have restores := ((Kernel.expand_asks source k).mono fun _ expands => expands.aloof).restores
    exact still restores fun _ => rfl
  | starting k code =>
    have takes := (Streaming.broadcastUnread_takes k.chunkSize).mono fun _ takes => takes.aloof
    apply (takes.restores g fits.loose).bind
    rintro _ _ rfl started
    cases started with
    | error e => exact ⟨trivial, fits.loose, fun some => absurd rfl some⟩
    | ok _ => exact ⟨trivial, fits.loose, fun _ => rfl⟩
  | executing k code => exact still (k.execute_restores code) fun _ => rfl
  | flushing k result =>
    have started : g.started = true := fits.started nofun
    apply ((Streaming.drain_asks k.chunkSize).keeps fun _ drains => drains.calm started).imp
    rintro _ _ rfl
    exact fits
  | publishing k result => exact still (QueuedMessage.publish_restores k) fun _ => rfl
  | stopping k outcome =>
    have started : g.started = true := fits.started nofun
    intro _
    refine ⟨trivial, ?_⟩
    apply ((Streaming.drain_asks k.chunkSize).keeps fun _ drains => drains.calm started).imp
    rintro _ _ rfl
    exact ⟨fits.loose, fun _ => started⟩

theorem whole_keeps_grip (stage : CellStage) {g : Grip} (fits : g.Fits stage.entry) :
    stage.whole.Keeps Grip.rules g fun t _ => t.Loose := by
  rw [whole_eq]
  refine (stage.keeps_grip fits).bind fun t result fits => ?_
  cases next : stage.next result with
  | inl later => exact later.whole_keeps_grip (entry_of_next next ▸ fits)
  | inr ending => exact fits.loose
termination_by stage.left
decreasing_by exact left_lt_of_next next

end CellStage

/-- Whatever goes wrong with a cell, lock and flag are given back. -/
theorem Kernel.answerCell_keeps_grip (k : Kernel) (source : String) (parent : Json) {g : Grip}
    (loose : g.Loose) :
    ((answerCell source parent).run k).Keeps Grip.rules g fun t _ => t.Loose := by
  rw [answerCell_eq, ← CellStage.whole_announcing]
  have whole := (CellStage.announcing k source parent).whole_keeps_grip
    ⟨loose, fun started => absurd rfl started⟩
  refine whole.bind fun t ending loose => ?_
  have reports := (report_asks ending.2 ending.1).mono fun _ reports => reports.aloof
  refine (reports.restores t loose).bind ?_
  rintro _ _ rfl
  exact loose

/-! ## What is left of a cell -/

/-- What a kernel has in common with its relay and with whoever interrupts it. -/
structure Upkeep where
  /-- Somebody holds the evaluation lock. -/
  locked : Bool
  /-- An evaluation is in flight. -/
  busy : Bool
  /-- Somebody holds the guard of the relay. -/
  guarded : Bool
  /-- What the relay remembers: it had output. -/
  printed : Bool
  deriving Repr, DecidableEq, Inhabited

namespace Upkeep

/-- It after an exchange. A relay that starts has a guard of its own and remembers nothing. -/
def after (u : Upkeep) : Exchange Host → Upkeep
  | ⟨.lockTarget, ()⟩ => { u with locked := true }
  | ⟨.unlockTarget, ()⟩ => { u with locked := false }
  | ⟨.setBusy busy, ()⟩ => { u with busy }
  | ⟨.startPolling, .ok ()⟩ => { u with guarded := false, printed := false }
  | ⟨.takeGuard, _⟩ => { u with guarded := true }
  | ⟨.releaseGuard printed, ()⟩ => { u with guarded := false, printed }
  | _ => u

/-- It after some turns. -/
def afterAll (u : Upkeep) (log : List Turn) : Upkeep :=
  log.foldl (fun u turn => u.after turn.exchange) u

/-- Nothing of it is taken, and no evaluation is in flight. -/
def Free (u : Upkeep) : Prop :=
  u.locked = false ∧ u.busy = false

theorem afterAll_append (u : Upkeep) (first second : List Turn) :
    u.afterAll (first ++ second) = (u.afterAll first).afterAll second :=
  List.foldl_append

end Upkeep

/-- The lock and the flag are as the kernel has left them. -/
def Grip.Holds (g : Grip) (u : Upkeep) : Prop :=
  u.locked = g.locked ∧ u.busy = g.busy

namespace Grip.Holds

variable {g : Grip} {u : Upkeep}

theorem own (holds : g.Holds u) (exchange : Exchange Host) :
    (rules.after g exchange).Holds (u.after exchange) := by
  obtain ⟨r, answer⟩ := exchange
  cases r with
  | startPolling => cases answer <;> exact holds
  | _ => first | exact holds | exact ⟨rfl, holds.2⟩ | exact ⟨holds.1, rfl⟩

/-- The relay has to do with neither. -/
theorem relay (holds : g.Holds u) {log : List Turn}
    (drains : ∀ turn ∈ log, turn.request.Drains) : g.Holds (u.afterAll log) := by
  induction log generalizing u with
  | nil => exact holds
  | cons turn rest ih =>
    obtain ⟨drain, later⟩ := List.forall_mem_cons.mp drains
    refine ih ?_ later
    obtain ⟨byRelay, r, answer⟩ := turn
    cases r <;> first | exact holds | cases drain

end Grip.Holds

/-- A program that behaves leaves the lock and the flag as it promised, with a relay beside it. -/
theorem Beside.holds {α : Type} {c d : Relay} {p : Act α} {log : List Turn} {a : α} {g : Grip}
    {Q : Grip → α → Prop} {u : Upkeep} (run : Beside c p log d a) (drains : c.Drains)
    (keeps : p.Keeps Grip.rules g Q) (holds : g.Holds u) :
    ∃ t : Grip, Q t a ∧ t.Holds (u.afterAll log) := by
  induction run generalizing g u with
  | done c a => exact ⟨g, keeps, holds⟩
  | @ask c d e r next first rest a answer moves permits later ih =>
    obtain ⟨drains, turns⟩ := moves.drains drains
    have before := holds.relay fun turn mem => (turns turn mem).2
    rw [Upkeep.afterAll_append]
    exact ih (drains.after _) (keeps answer).2 (before.own ⟨r, answer⟩)

/-! ## The relay of a cell -/

/-- The relay is to be started or stopped. -/
def Host.Request.Switches : Host.Request → Prop
  | .startPolling | .stopPolling => True
  | _ => False

/-- The relay of a cell, if there is one, is started once and stopped once, and has no turn but
between the two. One that could not be started is not tried again. -/
inductive OneRelay : List Turn → Prop
  | none {log : List Turn} :
    (∀ turn ∈ log, turn.byRelay = false ∧ ¬ turn.request.Switches) → OneRelay log
  | failed {before after : List Turn} (e : Error) :
    (∀ turn ∈ before ++ after, turn.byRelay = false ∧ ¬ turn.request.Switches) →
      OneRelay (before ++ .own ⟨.startPolling, .error e⟩ :: after)
  | one {before during after : List Turn} :
    (∀ turn ∈ before ++ after, turn.byRelay = false) →
      (∀ turn ∈ before ++ during ++ after, ¬ turn.request.Switches) →
        OneRelay
          (before ++ .own ⟨.startPolling, .ok ()⟩ :: during ++ .own ⟨.stopPolling, ()⟩ :: after)

namespace OneRelay

variable {first second : List Turn}

/-- The kernel may do something else before it starts the relay. -/
theorem prepend (quiet : ∀ turn ∈ first, turn.byRelay = false ∧ ¬ turn.request.Switches)
    (relay : OneRelay second) : OneRelay (first ++ second) := by
  cases relay with
  | none silent => exact .none (List.forall_mem_append.mpr ⟨quiet, silent⟩)
  | failed e silent =>
    rw [← List.append_assoc]
    refine .failed e ?_
    rw [List.append_assoc]
    exact List.forall_mem_append.mpr ⟨quiet, silent⟩
  | @one before during after own steady =>
    rw [List.append_assoc, ← List.append_assoc first, List.cons_append,
      ← List.cons_append, ← List.append_assoc]
    refine .one ?_ ?_
    · rw [List.append_assoc]
      exact List.forall_mem_append.mpr ⟨fun turn mem => (quiet turn mem).1, own⟩
    · rw [List.append_assoc, List.append_assoc, ← List.append_assoc before]
      exact List.forall_mem_append.mpr ⟨fun turn mem => (quiet turn mem).2, steady⟩

/-- It may also do something else when it has stopped it. -/
theorem append (relay : OneRelay first)
    (quiet : ∀ turn ∈ second, turn.byRelay = false ∧ ¬ turn.request.Switches) :
    OneRelay (first ++ second) := by
  cases relay with
  | none silent => exact .none (List.forall_mem_append.mpr ⟨silent, quiet⟩)
  | failed e silent =>
    rw [List.append_assoc, List.cons_append]
    refine .failed e ?_
    rw [← List.append_assoc]
    exact List.forall_mem_append.mpr ⟨silent, quiet⟩
  | @one before during after own steady =>
    rw [List.append_assoc, List.cons_append]
    refine .one ?_ ?_
    · rw [← List.append_assoc]
      exact List.forall_mem_append.mpr ⟨own, fun turn mem => (quiet turn mem).1⟩
    · rw [← List.append_assoc]
      exact List.forall_mem_append.mpr ⟨steady, fun turn mem => (quiet turn mem).2⟩

end OneRelay

/-- Only the start and the end of a relay switch it. -/
theorem CellStage.MayAsk.steady {stage : CellStage} {r : Host.Request} (asks : stage.MayAsk r)
    (bystands : stage.role ≠ .owning) : ¬ r.Switches := by
  intro switches
  cases r with
  | startPolling =>
    obtain ⟨k, code, rfl⟩ := asks.of_startPolling
    exact bystands rfl
  | stopPolling =>
    obtain ⟨k, outcome, rfl⟩ := asks.of_stopPolling
    exact bystands rfl
  | _ => cases switches

theorem Host.Request.Drains.steady {r : Host.Request} (drains : r.Drains) : ¬ r.Switches := by
  cases r <;> first | exact id | cases drains

theorem Host.Request.Reports.steady {r : Host.Request} (reports : r.Reports) : ¬ r.Switches := by
  cases r <;> first | exact id | cases reports

namespace Beside

variable {c d : Relay} {log : List Turn}

/-- What the kernel asks without a relay, but for the start of one. -/
theorem alone_steady {α : Type} {p : Act α} {a : α} {allowed : Host.Request → Prop}
    (run : Beside .absent p log d a) (asks : p.Asks allowed)
    (steady : ∀ r, allowed r → ¬ r.Switches) :
    d = .absent ∧ ∀ turn ∈ log, turn.byRelay = false ∧ ¬ turn.request.Switches := by
  obtain ⟨absent, own, requests⟩ := run.alone rfl asks fun starts => steady _ starts trivial
  refine ⟨absent, fun turn mem => ⟨?_, steady _ (requests turn mem)⟩⟩
  rw [own] at mem
  obtain ⟨exchange, -, rfl⟩ := List.mem_map.mp mem
  rfl

/-- Before a relay is to be started the kernel does what a drain does, alone. -/
theorem start_turns {chunk : Nat} {started : Except Error Unit}
    (run : Beside .absent (Streaming.start chunk).run log d started) :
    ∃ reads : List Turn, (∀ turn ∈ reads, turn.byRelay = false ∧ ¬ turn.request.Switches) ∧
      log = reads ++ [.own ⟨.startPolling, started⟩] ∧
        d = Relay.absent.after ⟨.startPolling, started⟩ := by
  obtain ⟨reads, had, gives, rfl, rfl⟩ := run.of_start
  refine ⟨reads.map .own, fun turn mem => ?_, by simp, rfl⟩
  obtain ⟨exchange, read, rfl⟩ := List.mem_map.mp mem
  exact ⟨rfl, (gives.requests (Streaming.broadcastUnread_asks chunk) exchange read).steady⟩

/-- The relay may go on until it is stopped; the last drain is the kernel's. -/
theorem stop_turns {chunk : Nat} {printed : Bool}
    (run : Beside c (Streaming.stop chunk) log d printed) (drains : c.Drains) :
    ∃ during after, log = during ++ .own ⟨.stopPolling, ()⟩ :: after ∧
      (∀ turn ∈ during ++ after, ¬ turn.request.Switches) ∧
        ∀ turn ∈ after, turn.byRelay = false := by
  cases run with
  | @ask _ e _ _ _ during after _ answer moves permits later =>
    have gone : e.after ⟨.stopPolling, answer⟩ = .absent := by
      obtain ⟨polling, drain⟩ := e
      obtain rfl : drain = none := permits
      rfl
    rw [gone] at later
    obtain ⟨-, own⟩ := later.alone_steady (Streaming.drain_asks chunk) fun _ drains => drains.steady
    refine ⟨during, after, rfl, ?_, fun turn mem => (own turn mem).1⟩
    refine List.forall_mem_append.mpr ⟨fun turn mem => ?_, fun turn mem => (own turn mem).2⟩
    exact ((moves.drains drains).2 turn mem).2.steady

end Beside

namespace Course

variable {c d : Relay} {stage : CellStage} {log : List Turn} {ending : CellStage.Ending}

/-- Once it polls, the relay is stopped once, and has no turn after that. -/
theorem stops (course : Course c stage log d ending) (polling : stage.entry = .polling)
    (drains : c.Drains) :
    ∃ during after, log = during ++ .own ⟨.stopPolling, ()⟩ :: after ∧
      (∀ turn ∈ during ++ after, ¬ turn.request.Switches) ∧
        ∀ turn ∈ after, turn.byRelay = false := by
  induction course with
  | @last c d stage log result ending run next =>
    cases stage with
    | stopping k outcome => exact run.stop_turns drains
    | announcing _ _ _ | expanding _ _ | starting _ _ => cases polling
    | executing _ _ | flushing _ _ | publishing _ _ =>
      rcases CellStage.exit_of_end next with ends | ends <;> cases ends
  | @more c d e stage later first rest result ending run next _ ih =>
    have steady : stage.role ≠ .owning → ∀ turn ∈ first, ¬ turn.request.Switches := by
      intro bystands turn mem
      rcases run.requests drains stage.asks_mayAsk turn mem with drain | asks
      · exact drain.steady
      · exact asks.steady bystands
    have entry := CellStage.entry_of_next next
    have within : stage.role ≠ .owning ∧ later.entry = .polling := by
      cases stage with
      | stopping _ _ => cases next
      | announcing _ _ _ | expanding _ _ | starting _ _ => cases polling
      | executing _ _ | flushing _ _ | publishing _ _ => exact ⟨nofun, entry⟩
    obtain ⟨during, after, rfl, quiet, own⟩ := ih within.2 (run.relay_drains drains).1
    refine ⟨first ++ during, after, (List.append_assoc ..).symm, ?_, own⟩
    rw [List.append_assoc]
    exact List.forall_mem_append.mpr ⟨steady within.1, quiet⟩

/-- A cell has one relay at most. -/
theorem oneRelay (course : Course c stage log d ending) (absent : stage.entry = .absent)
    (start : c = .absent) : OneRelay log := by
  induction course with
  | @last c d stage log result ending run next =>
    subst start
    cases stage with
    | announcing _ _ _ | expanding _ _ =>
      exact .none (run.alone_steady (CellStage.asks_mayAsk _) fun _ asks => asks.steady nofun).2
    | starting k code =>
      obtain ⟨reads, quiet, rfl, -⟩ := run.start_turns
      cases result with
      | ok _ => cases next
      | error e => exact .failed e (by rwa [List.append_nil])
    | _ => cases absent
  | @more c d e stage later first rest result ending run next course ih =>
    subst start
    have entry := CellStage.entry_of_next next
    cases stage with
    | announcing _ _ _ | expanding _ _ =>
      obtain ⟨rfl, quiet⟩ := run.alone_steady (CellStage.asks_mayAsk _)
        fun _ asks => asks.steady nofun
      exact (ih entry rfl).prepend quiet
    | starting k code =>
      obtain ⟨reads, quiet, rfl, rfl⟩ := run.start_turns
      cases result with
      | error e => cases next
      | ok _ =>
        obtain ⟨during, after, rfl, steady, own⟩ :=
          course.stops entry (Relay.absent_drains.after _)
        have one : OneRelay (reads ++ .own ⟨.startPolling, .ok ()⟩ :: during ++
            .own ⟨.stopPolling, ()⟩ :: after) := by
          refine .one (List.forall_mem_append.mpr ⟨fun turn mem => (quiet turn mem).1, own⟩) ?_
          rw [List.append_assoc]
          exact List.forall_mem_append.mpr ⟨fun turn mem => (quiet turn mem).2, steady⟩
        simpa using one
    | _ => cases absent

end Course

/-! ## Between two cells -/

/-- What there is between two cells. -/
structure Standing where
  kernel : Kernel
  relay : Relay
  upkeep : Upkeep

/-- Nothing goes on: there is no relay, the lock is free, and no evaluation is in flight. -/
structure Standing.AtRest (s : Standing) : Prop where
  relay : s.relay = .absent
  free : s.upkeep.Free

/-- A cell that was run. -/
structure CellRun where
  before : Standing
  source : String
  parent : Json
  turns : List Turn
  reply : ExecuteReply
  after : Standing

namespace CellRun

/-- The cell can be run like that: whatever is answered, at any call. -/
structure Possible (cell : CellRun) : Prop where
  run : Beside cell.before.relay
    ((Kernel.answerCell cell.source cell.parent).run cell.before.kernel) cell.turns
    cell.after.relay (cell.reply, cell.after.kernel)
  upkeep : cell.after.upkeep = cell.before.upkeep.afterAll cell.turns

/-- The cell leaves nothing behind: its relay, if it had one, was started once and stopped once and
does nothing any more, no evaluation is in flight, the lock is free, and the number of the cell and
the width of integers are what they were. -/
structure LeavesNothing (cell : CellRun) : Prop where
  oneRelay : OneRelay cell.turns
  silent : ∀ {turns : List Turn} {d : Relay}, cell.after.relay.Moves turns d → turns = []
  idle : cell.after.upkeep.busy = false
  unlocked : cell.after.upkeep.locked = false
  counter : cell.after.kernel.counter = cell.before.kernel.counter
  width : cell.after.kernel.session.nativeWidth = cell.before.kernel.session.nativeWidth

variable {cell : CellRun}

theorem Possible.atRest (possible : cell.Possible) (rest : cell.before.AtRest) :
    cell.after.AtRest := by
  obtain ⟨run, upkeep⟩ := possible
  rw [rest.relay] at run
  obtain ⟨-, -, -, -, gone, -, -⟩ := Kernel.answerCell_course run
  refine ⟨gone, ?_⟩
  have keeps := Kernel.answerCell_keeps_grip cell.before.kernel cell.source cell.parent
    (g := ⟨false, false, false⟩) ⟨rfl, rfl⟩
  obtain ⟨t, loose, holds⟩ := run.holds Relay.absent_drains keeps rest.free
  rw [upkeep]
  exact ⟨holds.1.trans loose.1, holds.2.trans loose.2⟩

/-- Of the kernel a cell changes nothing but whether completion is on. -/
theorem Possible.kernel (possible : cell.Possible) (rest : cell.before.AtRest) :
    ∃ completion : CompletionState, completion.supported = cell.before.kernel.completion.supported ∧
      cell.after.kernel = { cell.before.kernel with completion } := by
  obtain ⟨run, -⟩ := possible
  rw [rest.relay] at run
  obtain ⟨x, -, leaves, same⟩ := Kernel.answerCell_dissected run
  exact ⟨_, leaves.supported, same⟩

theorem Possible.leavesNothing (possible : cell.Possible) (rest : cell.before.AtRest) :
    cell.LeavesNothing := by
  have after := possible.atRest rest
  obtain ⟨completion, -, same⟩ := possible.kernel rest
  obtain ⟨run, -⟩ := possible
  rw [rest.relay] at run
  obtain ⟨turns, closing, outcome, log, -, course, reported⟩ := Kernel.answerCell_course run
  refine ⟨?_, fun moves => ?_, after.free.2, after.free.1, ?_, ?_⟩
  · rw [log]
    refine (course.oneRelay rfl rfl).append fun turn mem => ?_
    obtain ⟨exchange, told, rfl⟩ := List.mem_map.mp mem
    exact ⟨rfl, (reported.requests (Kernel.report_asks _ _) exchange told).steady⟩
  · rw [after.relay] at moves
    exact moves.of_absent.1
  · rw [same]
  · rw [same]

end CellRun

end NotebookKernel
