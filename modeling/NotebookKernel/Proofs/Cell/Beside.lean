import NotebookKernel.Proofs.Cell.Drains

/-!
What the kernel does while its relay drains beside it.

Here any answers are possible; what counts is who asks, and when. From the start of its polling
until the end the relay may drain at any time, and between two of its requests the kernel goes on
with its own. `Beside` relates a program of the kernel to the turns that the two take, from one
state of the relay to another. A program that neither finds nor starts a relay runs alone, and after
a cell no relay is left.
-/

namespace NotebookKernel

/-- An exchange, and who asked. -/
structure Turn where
  byRelay : Bool
  exchange : Exchange Host

namespace Turn

/-- An exchange of the kernel. -/
def own (exchange : Exchange Host) : Turn :=
  ⟨false, exchange⟩

/-- What was asked. -/
def request (turn : Turn) : Host.Request :=
  turn.exchange.request

end Turn

/-- The exchanges of the kernel. -/
def owned (log : List Turn) : List (Exchange Host) :=
  (log.filter fun turn => !turn.byRelay).map Turn.exchange

@[simp]
theorem owned_append (first second : List Turn) :
    owned (first ++ second) = owned first ++ owned second := by
  simp [owned]

@[simp]
theorem owned_own_cons (exchange : Exchange Host) (log : List Turn) :
    owned (.own exchange :: log) = exchange :: owned log := by
  simp [owned, Turn.own]

@[simp]
theorem owned_map_own (exchanges : List (Exchange Host)) :
    owned (exchanges.map .own) = exchanges := by
  induction exchanges with
  | nil => rfl
  | cons exchange rest ih => rw [List.map_cons, owned_own_cons, ih]

/-- What is seen in the exchanges of the kernel alone is all that is seen, where nothing of it is in
those of the relay. -/
theorem filterMap_owned {β : Type} {f : Exchange Host → Option β} {log : List Turn}
    (relay : ∀ turn ∈ log, turn.byRelay = true → f turn.exchange = none) :
    (owned log).filterMap f = log.filterMap fun turn => f turn.exchange := by
  induction log with
  | nil => rfl
  | cons turn rest ih =>
    have later := ih fun turn mem => relay turn (List.mem_cons_of_mem _ mem)
    obtain ⟨byRelay, exchange⟩ := turn
    cases byRelay with
    | true =>
      have unseen : f exchange = none := relay _ List.mem_cons_self rfl
      rw [List.filterMap_cons_none (by exact unseen), ← later]
      rfl
    | false =>
      change (owned (.own exchange :: rest)).filterMap f = _
      rw [owned_own_cons, List.filterMap_cons, List.filterMap_cons, later]

theorem owned_of_relay {log : List Turn} (relay : ∀ turn ∈ log, turn.byRelay = true) :
    owned log = [] := by
  rw [owned, List.map_eq_nil_iff, List.filter_eq_nil_iff]
  intro turn mem
  simp [relay turn mem]

/-! ## The relay -/

/-- A relay: whether it polls, and what a drain that is under way has still to do. -/
structure Relay where
  polling : Bool
  drain : Option (Act Bool)

namespace Relay

/-- There is no relay. -/
def absent : Relay :=
  ⟨false, none⟩

/-- The kernel may ask at this moment: polling stops only between two drains. -/
def Permits (c : Relay) : Host.Request → Prop
  | .stopPolling => c.drain = none
  | _ => True

/-- The relay after an exchange of the kernel. -/
def after (c : Relay) : Exchange Host → Relay
  | ⟨.startPolling, .ok ()⟩ => { c with polling := true }
  | ⟨.stopPolling, ()⟩ => { c with polling := false }
  | _ => c

/-- What the relay does by itself, with any answers. -/
inductive Moves : Relay → List Turn → Relay → Prop
  | refl (c : Relay) : Moves c [] c
  /-- It begins to drain. -/
  | poll {c d : Relay} {log : List Turn} (chunk : Nat) : c.polling = true → c.drain = none →
    Moves { c with drain := some (Streaming.drain chunk) } log d → Moves c log d
  | ask {c d : Relay} {log : List Turn} {r : Host.Request} {next : Host.Answer r → Act Bool}
      (answer : Host.Answer r) : c.drain = some (.ask r next) →
    Moves { c with drain := some (next answer) } log d → Moves c (⟨true, ⟨r, answer⟩⟩ :: log) d
  /-- It has drained. -/
  | rest {c d : Relay} {log : List Turn} {printed : Bool} : c.drain = some (.done printed) →
    Moves { c with drain := none } log d → Moves c log d

/-- A drain that is under way asks what drains ask. -/
def Drains (c : Relay) : Prop :=
  ∀ rest, c.drain = some rest → rest.Asks Host.Request.Drains

theorem absent_drains : absent.Drains :=
  fun _ underWay => nomatch underWay

/-- The kernel leaves a drain that is under way to the relay. -/
theorem after_drain (c : Relay) (exchange : Exchange Host) : (c.after exchange).drain = c.drain := by
  unfold after
  split <;> rfl

/-- Whether it polls does not depend on that. -/
theorem after_polling (c : Relay) (exchange : Exchange Host) :
    (c.after exchange).polling = (after ⟨c.polling, none⟩ exchange).polling := by
  unfold after
  split <;> rfl

theorem Drains.after {c : Relay} (drains : c.Drains) (exchange : Exchange Host) :
    (c.after exchange).Drains := by
  intro rest underWay
  rw [after_drain] at underWay
  exact drains rest underWay

/-- All turns are the relay's, and they are those of drains. -/
theorem Moves.drains {c d : Relay} {log : List Turn} (moves : c.Moves log d) (drains : c.Drains) :
    d.Drains ∧ ∀ turn ∈ log, turn.byRelay = true ∧ turn.request.Drains := by
  induction moves with
  | refl c => exact ⟨drains, fun _ mem => nomatch mem⟩
  | poll chunk _ _ _ ih =>
    apply ih
    intro rest underWay
    obtain rfl := Option.some.inj underWay
    exact Streaming.drain_asks chunk
  | ask answer underWay _ ih =>
    obtain ⟨asks, later⟩ := drains _ underWay
    obtain ⟨finally', turns⟩ := ih fun rest same => Option.some.inj same ▸ later answer
    refine ⟨finally', fun turn mem => ?_⟩
    rcases List.mem_cons.mp mem with rfl | mem
    · exact ⟨rfl, asks⟩
    · exact turns turn mem
  | rest _ _ ih => exact ih fun _ underWay => nomatch underWay

/-- An absent relay does nothing. -/
theorem Moves.of_absent {d : Relay} {log : List Turn} (moves : absent.Moves log d) :
    log = [] ∧ d = absent := by
  cases moves with
  | refl => exact ⟨rfl, rfl⟩
  | poll _ polling => cases polling
  | ask _ underWay => cases underWay
  | rest underWay => cases underWay

end Relay

/-! ## Programs beside the relay -/

/-- A program of the kernel takes turns with the relay until it is done. -/
inductive Beside {α : Type} : Relay → Act α → List Turn → Relay → α → Prop
  | done (c : Relay) (a : α) : Beside c (.done a) [] c a
  | ask {c d e : Relay} {r : Host.Request} {next : Host.Answer r → Act α} {first rest : List Turn}
      {a : α} (answer : Host.Answer r) :
    c.Moves first d → d.Permits r → Beside (d.after ⟨r, answer⟩) (next answer) rest e a →
      Beside c (.ask r next) (first ++ .own ⟨r, answer⟩ :: rest) e a

namespace Beside

variable {α β : Type} {c d : Relay} {log : List Turn} {a : α}

theorem of_done {b : α} (run : Beside c (.done a) log d b) : log = [] ∧ d = c ∧ b = a := by
  cases run with
  | done => exact ⟨rfl, rfl, rfl⟩

/-- A sequence of two programs runs one after the other. -/
theorem of_bind {p : Act α} {f : α → Act β} {b : β} :
    ∀ {c : Relay} {log : List Turn}, Beside c (p.bind f) log d b →
      ∃ first second e a, log = first ++ second ∧ Beside c p first e a ∧
        Beside e (f a) second d b := by
  induction p with
  | done a => exact fun {c log} run => ⟨[], log, c, a, rfl, .done c a, run⟩
  | ask r next ih =>
    intro c log run
    cases run with
    | ask answer moves permits later =>
      obtain ⟨first, second, e, a, rfl, left, right⟩ := ih answer later
      exact ⟨_, second, e, a, by simp, .ask answer moves permits left, right⟩

/-- What the relay does counts for the kernel only through its answers. -/
theorem gives {p : Act α} (run : Beside c p log d a) (drains : c.Drains) :
    p.Gives (owned log) a := by
  induction run with
  | done c a => exact .done a
  | ask answer moves permits _ ih =>
    obtain ⟨drains, turns⟩ := moves.drains drains
    rw [owned_append, owned_of_relay fun turn mem => (turns turn mem).1, List.nil_append,
      owned_own_cons]
    refine Program.Gives.ask (I := Host) _ answer ?_
    exact ih (drains.after _)

/-- The relay may also keep still. -/
theorem of_gives {p : Act α} {exchanges : List (Exchange Host)} (run : p.Gives exchanges a) :
    ∀ {c : Relay}, c.drain = none → Beside c p (exchanges.map .own)
      (exchanges.foldl Relay.after c) a := by
  induction run with
  | done a => exact fun _ => .done _ a
  | ask r answer _ ih =>
    intro c idle
    have still : (c.after ⟨r, answer⟩).drain = none := (c.after_drain _).trans idle
    refine Beside.ask answer (.refl c) ?_ (ih still)
    cases r <;> first | exact idle | trivial

/-- What the relay asks is what drains ask. -/
theorem relay_drains {p : Act α} (run : Beside c p log d a) (drains : c.Drains) :
    d.Drains ∧ ∀ turn ∈ log, turn.byRelay = true → turn.request.Drains := by
  induction run with
  | done c a => exact ⟨drains, fun _ mem => nomatch mem⟩
  | ask answer moves permits _ ih =>
    obtain ⟨drains, turns⟩ := moves.drains drains
    obtain ⟨still, later⟩ := ih (drains.after _)
    refine ⟨still, fun turn mem byRelay => ?_⟩
    rcases List.mem_append.mp mem with mem | mem
    · exact (turns turn mem).2
    · rcases List.mem_cons.mp mem with rfl | mem
      · cases byRelay
      · exact later turn mem byRelay

/-- What the kernel asks is what the program asks. -/
theorem own_requests {p : Act α} {allowed : Host.Request → Prop} (run : Beside c p log d a)
    (drains : c.Drains) (asks : p.Asks allowed) :
    ∀ turn ∈ log, turn.byRelay = false → allowed turn.request := by
  intro turn mem byRelay
  have own : turn.exchange ∈ owned log := by
    rw [owned, List.mem_map]
    exact ⟨turn, List.mem_filter.mpr ⟨mem, by simp [byRelay]⟩, rfl⟩
  exact (run.gives drains).requests asks _ own

/-- Whatever is asked, a drain asks it or the program does. -/
theorem requests {p : Act α} {allowed : Host.Request → Prop} (run : Beside c p log d a)
    (drains : c.Drains) (asks : p.Asks allowed) :
    ∀ turn ∈ log, turn.request.Drains ∨ allowed turn.request := by
  intro turn mem
  cases byRelay : turn.byRelay with
  | true => exact .inl ((run.relay_drains drains).2 turn mem byRelay)
  | false => exact .inr (run.own_requests drains asks turn mem byRelay)

/-- Without a relay, and with none started, the kernel is alone. -/
theorem alone {p : Act α} {allowed : Host.Request → Prop} (run : Beside c p log d a)
    (start : c = .absent) (asks : p.Asks allowed) (starts : ¬ allowed .startPolling) :
    d = .absent ∧ log = (owned log).map .own ∧ ∀ turn ∈ log, allowed turn.request := by
  induction run with
  | done c a => exact ⟨start, rfl, fun _ mem => nomatch mem⟩
  | @ask c e _ r _ first rest _ answer moves permits _ ih =>
    subst start
    obtain ⟨rfl, rfl⟩ := moves.of_absent
    have still : Relay.absent.after ⟨r, answer⟩ = .absent := by
      cases r with
      | startPolling => exact absurd asks.1 starts
      | _ => rfl
    obtain ⟨absent, own, requests⟩ := ih still (asks.2 answer)
    refine ⟨absent, ?_, fun turn mem => ?_⟩
    · rw [List.nil_append, owned_own_cons, List.map_cons, ← own]
    · rcases List.mem_cons.mp mem with rfl | mem
      · exact asks.1
      · exact requests turn mem

/-- A relay that was stopped is gone. -/
theorem of_stop {chunk : Nat} {printed : Bool}
    (run : Beside c (Streaming.stop chunk) log d printed) : d = .absent := by
  cases run with
  | @ask _ e _ _ _ _ _ _ answer moves permits later =>
    have gone : e.after ⟨.stopPolling, answer⟩ = .absent := by
      obtain ⟨polling, drain⟩ := e
      obtain rfl : drain = none := permits
      rfl
    exact (later.alone gone (Streaming.drain_asks chunk) id).1

end Beside

/-! ## The stages of a cell -/

/-- A stage of a cell run and those that follow it, beside the relay. -/
inductive Course : Relay → CellStage → List Turn → Relay → CellStage.Ending → Prop
  | last {c d : Relay} {stage : CellStage} {log : List Turn} {result : stage.Result}
      {ending : CellStage.Ending} :
    Beside c stage.program log d result → stage.next result = .inr ending →
      Course c stage log d ending
  | more {c d e : Relay} {stage later : CellStage} {first rest : List Turn}
      {result : stage.Result} {ending : CellStage.Ending} :
    Beside c stage.program first d result → stage.next result = .inl later →
      Course d later rest e ending → Course c stage (first ++ rest) e ending

/-- A stage with all that follows takes that course. -/
theorem Beside.course {stage : CellStage} {c d : Relay} {log : List Turn}
    {ending : CellStage.Ending} (run : Beside c stage.whole log d ending) :
    Course c stage log d ending := by
  rw [CellStage.whole_eq] at run
  obtain ⟨first, second, e, result, rfl, here, there⟩ := run.of_bind
  cases next : stage.next result with
  | inl later =>
    rw [next] at there
    exact .more here next there.course
  | inr last =>
    rw [next] at there
    obtain ⟨rfl, rfl, rfl⟩ := there.of_done
    rw [List.append_nil]
    exact .last here next
termination_by stage.left
decreasing_by exact CellStage.left_lt_of_next next

/-- While a relay is to be started the kernel is alone. -/
theorem Beside.of_start {chunk : Nat} {d : Relay} {log : List Turn} {started : Except Error Unit}
    (run : Beside .absent (Streaming.start chunk).run log d started) :
    ∃ (reads : List (Exchange Host)) (had : Bool),
      (Streaming.broadcastUnread chunk).Gives reads had ∧
        log = (reads ++ [(⟨.startPolling, started⟩ : Exchange Host)]).map .own ∧
        d = Relay.absent.after ⟨.startPolling, started⟩ := by
  obtain ⟨turns, _, _, had, rfl, unread, rest⟩ := Beside.of_bind run
  obtain ⟨rfl, own, -⟩ := unread.alone rfl (Streaming.broadcastUnread_asks chunk) id
  cases rest with
  | ask answer moves permits later =>
    obtain ⟨rfl, rfl⟩ := moves.of_absent
    obtain ⟨rfl, rfl, rfl⟩ := later.of_done
    refine ⟨owned turns, had, unread.gives Relay.absent_drains, ?_, rfl⟩
    rw [List.map_append, ← own]
    rfl

/-- Without a relay at its end, a stage that found none started none. -/
theorem CellStage.stays_absent {stage : CellStage} {d : Relay} {log : List Turn}
    {result : stage.Result} (run : Beside .absent stage.program log d result)
    (before : stage.exit result = .absent) : d = .absent := by
  cases stage with
  | announcing k source parent => exact (run.alone rfl (k.announceRequest_asks parent) id).1
  | expanding k source => exact (run.alone rfl (Kernel.expand_asks source k) id).1
  | starting k code =>
    obtain ⟨reads, had, -, -, rfl⟩ := run.of_start
    cases result with
    | error e => rfl
    | ok _ => cases before
  | _ => cases before

theorem CellStage.entry_of_exit {stage : CellStage} {result : stage.Result}
    (absent : stage.exit result = .absent) : stage.entry = .absent := by
  cases stage <;> first | rfl | cases absent

/-- What may be asked for in the course of a cell, by its parts or by its relay. -/
inductive Host.Request.InCell : Host.Request → Prop
  | submits {r : Host.Request} : r.Submits → InCell r
  | expands {r : Host.Request} : r.Expands → InCell r
  | inspects {r : Host.Request} : r.Inspects → InCell r
  | forwards {r : Host.Request} : r.Forwards → InCell r
  | drains {r : Host.Request} : r.Drains → InCell r
  | startPolling : InCell .startPolling
  | stopPolling : InCell .stopPolling

theorem CellStage.program_asks (stage : CellStage) : stage.program.Asks Host.Request.InCell := by
  cases stage with
  | announcing k source parent => exact (k.announceRequest_asks parent).mono fun _ => .submits
  | expanding k source => exact (Kernel.expand_asks source k).mono fun _ => .expands
  | starting k code =>
    refine ((Streaming.broadcastUnread_asks k.chunkSize).mono fun _ => .drains).bind fun _ => ?_
    exact ⟨.startPolling, fun _ => trivial⟩
  | executing k code => exact (k.execute_asks code).mono fun _ => .submits
  | flushing k result => exact (Streaming.drain_asks k.chunkSize).mono fun _ => .drains
  | publishing k result =>
    exact QueuedMessage.publish_asks (fun _ => .submits) (fun _ => .inspects)
      (fun _ => .forwards) k
  | stopping k outcome =>
    exact ⟨.stopPolling, fun _ => (Streaming.drain_asks k.chunkSize).mono fun _ => .drains⟩

namespace Course

variable {c d : Relay} {stage : CellStage} {log : List Turn} {ending : CellStage.Ending}

/-- After a cell there is no relay. -/
theorem ends_absent (course : Course c stage log d ending)
    (start : stage.entry = .absent → c = .absent) : d = .absent := by
  induction course with
  | @last c d stage log result ending run next =>
    obtain absent | sweeping := CellStage.exit_of_end next
    · obtain rfl := start (CellStage.entry_of_exit absent)
      exact CellStage.stays_absent run absent
    · cases stage with
      | stopping k outcome => exact run.of_stop
      | starting k code => cases result <;> cases sweeping
      | _ => cases sweeping
  | @more c d e stage later first rest result ending run next _ ih =>
    refine ih fun absent => ?_
    rw [CellStage.entry_of_next next] at absent
    obtain rfl := start (CellStage.entry_of_exit absent)
    exact CellStage.stays_absent run absent

/-- All that is asked in the course of a cell is what its parts and its relay ask for. -/
theorem requests (course : Course c stage log d ending) (drains : c.Drains) :
    ∀ turn ∈ log, turn.request.InCell := by
  induction course with
  | @last c d stage log result ending run next =>
    intro turn mem
    rcases run.requests drains stage.program_asks turn mem with asks | asks
    · exact .drains asks
    · exact asks
  | @more c d e stage later first rest result ending run next _ ih =>
    intro turn mem
    rcases List.mem_append.mp mem with mem | mem
    · rcases run.requests drains stage.program_asks turn mem with asks | asks
      · exact .drains asks
      · exact asks
    · exact ih (run.relay_drains drains).1 turn mem

end Course

end NotebookKernel
