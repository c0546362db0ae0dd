import NotebookKernel.Proofs.Cell.Turns

/-!
No output is lost, duplicated or reordered.

`Desk.Kept` is what every step keeps, for two holds: the kernel's and that of the relay's drain. At
most one of them has text in hand, since the relay drains only while it polls, and then only under
the guard. So the output of the target falls into three parts, one behind the other: what drains
have broadcast, what one of them has in hand, and what is still captured.
`Desk.Reachable.output_kept` is the statement about everything kernel, relay and target may come to.
-/

namespace NotebookKernel

/-! ## Text -/

/-- A bystander broadcasts at most. -/
theorem Hold.bystander_effect {h : Hold} {effect : Effect} (allowed : h.Allows .bystander effect) :
    (∃ text, effect = .sent text) ∨ effect = .unsent ∨ effect = .other := by
  cases effect with
  | sent text => exact .inl ⟨text, rfl⟩
  | unsent => exact .inr (.inl rfl)
  | other => exact .inr (.inr rfl)
  | started => cases allowed.1
  | stopped => cases allowed.1
  | _ => exact absurd rfl allowed.1

/-- So it does nothing to captured output and the relay. -/
theorem Hold.bystander_cases {h : Hold} {effect : Effect} {s t : Shared} {draining : Bool}
    (allowed : h.Allows .bystander effect) (answered : s.Answers draining effect t) :
    t = s ∧ h.after .bystander effect = h := by
  obtain ⟨text, rfl⟩ | rfl | rfl := Hold.bystander_effect allowed
  · exact ⟨answered, rfl⟩
  · exact ⟨answered, rfl⟩
  · exact ⟨answered, rfl⟩

section Text

variable {event : Event} {history : List Event} {h : Hold} {role : CellStage.Role}
  {effect : Effect} {s t : Shared} {draining : Bool} {others : List Char}

theorem relayed_of_other (other : event.drained = .other) :
    relayed (event :: history) = relayed history := by
  rw [relayed, other]

theorem inHand_of_other (other : event.drained = .other) :
    inHand (event :: history) = inHand history := by
  rw [inHand, other]

theorem printed_of_exchange (quiet : event.output = []) :
    printed (event :: history) = printed history := by
  rw [printed, quiet, List.append_nil]

/-- What is in hand after a drain did something. -/
theorem inHand_after (drained : event.drained = effect) (drains : role ≠ .bystander)
    (allowed : h.Allows role effect) (turn : h.Alone → others = [])
    (hand : inHand history = h.text ++ others) :
    inHand (event :: history) = (h.after role effect).text ++ others := by
  rw [inHand, drained]
  cases effect with
  | took text =>
    obtain rfl := turn allowed.2
    simp [hand, Hold.after]
  | sent text =>
    obtain rfl := turn (allowed drains).2
    simp [Hold.after, drains]
  | unsent =>
    obtain rfl := turn (allowed drains)
    simp [Hold.after, drains]
  | _ => exact hand

/-- A drain moves text from one part of the output to the next. -/
theorem balance_after (drained : event.drained = effect) (quiet : event.output = [])
    (drains : role ≠ .bystander) (allowed : h.Allows role effect)
    (answered : s.Answers draining effect t) (turn : h.Alone → others = [])
    (hand : inHand history = h.text ++ others) (sent : event.drained ≠ .unsent)
    (balance : relayed history ++ inHand history ++ s.captured = printed history) :
    relayed (event :: history) ++ inHand (event :: history) ++ t.captured =
      printed (event :: history) := by
  rw [printed_of_exchange quiet, ← balance, relayed, inHand, drained]
  cases effect with
  | took text =>
    obtain ⟨split, -, -⟩ := answered
    rw [split]
    simp
  | sent text =>
    obtain ⟨rfl, alone⟩ := allowed drains
    obtain rfl : t = s := answered
    rw [turn alone] at hand
    simp [hand]
  | unsent => exact absurd drained sent
  | failed =>
    obtain rfl : t = s := answered
    rfl
  | counted n =>
    obtain rfl : t = s := answered.2
    rfl
  | started =>
    obtain rfl : t = _ := answered
    rfl
  | stopped =>
    obtain ⟨-, rfl⟩ := answered
    rfl
  | locked printed =>
    obtain ⟨-, -, rfl⟩ := answered
    rfl
  | unlocked printed =>
    obtain rfl : t = _ := answered
    rfl
  | other =>
    obtain rfl : t = s := answered
    rfl

end Text

/-! ## The final drain -/

namespace RelayTrace

variable {event : Event} {history before since : List Event}

theorem of_cons (going : event ≠ .began) :
    of (event :: history) =
      match event.drained with
      | .started => polling
      | .stopped => stopped
      | .counted _ => (of history).counted history event
      | _ => (of history).later event := by
  cases event with
  | began => exact absurd rfl going
  | _ => rfl

theorem phase_later (trace : RelayTrace) : (trace.later event).phase = trace.phase := by
  cases trace <;> rfl

theorem phase_counted (trace : RelayTrace) :
    (trace.counted history event).phase = trace.phase.counted := by
  cases trace <;> rfl

theorem later_eq_sweeping {trace : RelayTrace} (h : trace.later event = .sweeping before since) :
    ∃ rest, since = event :: rest ∧ trace = .sweeping before rest := by
  cases trace with
  | sweeping _ rest => cases h; exact ⟨rest, rfl, rfl⟩
  | _ => cases h

/-- The final drain begins to read, or reads already. -/
theorem counted_eq_sweeping {trace : RelayTrace}
    (h : trace.counted history event = .sweeping before since) :
    (before = history ∧ since = [] ∧ trace = .stopped) ∨
      ∃ rest, since = event :: rest ∧ trace = .sweeping before rest := by
  cases trace with
  | stopped => cases h; exact .inl ⟨rfl, rfl, rfl⟩
  | _ => exact .inr (later_eq_sweeping h)

/-- What someone holds is in the phase that the history leads to. -/
theorem phase_after {h : Hold} {role : CellStage.Role} {effect : Effect} (going : event ≠ .began)
    (drained : event.drained = effect) (drains : role ≠ .bystander)
    (phase : (of history).phase = h.phase) :
    (of (event :: history)).phase = (h.after role effect).phase := by
  rw [of_cons going, drained]
  cases effect with
  | started => rfl
  | stopped => rfl
  | counted n => exact (phase_counted _).trans (congrArg Phase.counted phase)
  | sent text =>
    rw [Hold.after, if_neg drains]
    exact (phase_later _).trans phase
  | unsent =>
    rw [Hold.after, if_neg drains]
    exact (phase_later _).trans phase
  | _ => exact (phase_later _).trans phase

/-- What was printed before the final drain is part of what was printed. -/
theorem printed_before (h : of history = .sweeping before since) :
    printed before <+: printed history := by
  induction history generalizing since with
  | nil => cases h
  | cons event earlier ih =>
    have longer : printed earlier <+: printed (event :: earlier) := List.prefix_append _ _
    by_cases going : event = .began
    · subst going
      cases h
    · rw [of_cons going] at h
      split at h
      · cases h
      · cases h
      · obtain ⟨rfl, -, -⟩ | ⟨rest, -, here⟩ := counted_eq_sweeping h
        · exact longer
        · exact (ih here).trans longer
      · obtain ⟨rest, -, here⟩ := later_eq_sweeping h
        exact (ih here).trans longer

end RelayTrace

/-- Of a text, no more than is in hand or due is missing among what was broadcast. -/
def Owed (mark : List Char) (history : List Event) (h : Hold) : Prop :=
  ∀ n, h.due = some n → mark.length ≤ (relayed history).length + h.text.length + n

/-- Of what was printed before the final drain began to read, no more than what is due is still to
be taken, unless a read failed. -/
def Swept (history : List Event) (own : Hold) : Prop :=
  ∀ before since, RelayTrace.of history = .sweeping before since →
    (∀ event ∈ since, event.drained ≠ .failed) → ∀ n, own.due = some n →
      (printed before).length ≤ (relayed history).length + own.text.length + n

section Sweep

variable {event : Event} {history : List Event} {h : Hold} {role : CellStage.Role}
  {effect : Effect} {s t : Shared} {draining : Bool} {others : List Char}

/-- A drain that reads without a failure keeps account of a text that was printed before, and it
begins to when it counts what is captured. -/
theorem Owed.after {mark : List Char}
    (owed : Owed mark history h ∨ ∃ unread, effect = .counted unread)
    (before : mark <+: printed history) (drained : event.drained = effect)
    (drains : role ≠ .bystander) (allowed : h.Allows role effect)
    (answered : s.Answers draining effect t) (turn : h.Alone → others = [])
    (hand : inHand history = h.text ++ others) (sent : event.drained ≠ .unsent)
    (read : event.drained ≠ .failed)
    (balance : relayed history ++ inHand history ++ s.captured = printed history) :
    Owed mark (event :: history) (h.after role effect) := by
  have total : (printed history).length =
      (relayed history).length + (h.text.length + others.length) + s.captured.length := by
    rw [← balance, hand]
    simp only [List.length_append]
  have bound := before.length_le
  have known : (∀ unread, effect ≠ .counted unread) → Owed mark history h := by
    intro other
    rcases owed with owed | ⟨unread, counted⟩
    · exact owed
    · exact absurd counted (other unread)
  intro n due
  rw [relayed, drained]
  cases effect with
  | took text =>
    rw [turn allowed.2, List.length_nil] at total
    rcases answered with ⟨-, progress, -⟩
    by_cases empty : text = []
    · have nothing : s.captured = [] := by
        by_cases some : s.captured = []
        · exact some
        · exact absurd empty (progress some)
      rw [nothing, List.length_nil] at total
      simp only [Hold.after, empty, List.append_nil]
      omega
    · simp only [Hold.after, empty, if_false, Option.map_eq_some_iff] at due
      rcases due with ⟨m, due, rfl⟩
      have := known (by simp) m due
      have := List.length_pos_iff.mpr empty
      simp only [Hold.after, List.length_append]
      omega
  | failed => exact absurd drained read
  | counted unread =>
    rw [turn allowed.2, List.length_nil] at total
    rcases answered with ⟨enough, -⟩
    simp only [Hold.after, Option.some.injEq] at due ⊢
    omega
  | sent text =>
    rcases allowed drains with ⟨rfl, -⟩
    simp only [Hold.after, if_neg drains] at due ⊢
    have := known (by simp) n due
    simp only [List.length_append, List.length_nil]
    omega
  | unsent => exact absurd drained sent
  | _ => exact known (by simp) n due

/-- What has no effect on the relay leaves no more to be taken. -/
theorem Swept.of_other (swept : Swept history h) (going : event ≠ .began)
    (other : event.drained = .other) : Swept (event :: history) h := by
  intro before since trace unfailed n due
  rw [RelayTrace.of_cons going, other] at trace
  obtain ⟨rest, rfl, here⟩ := RelayTrace.later_eq_sweeping trace
  rw [relayed_of_other other]
  exact swept before rest here (fun event mem => unfailed event (List.mem_cons_of_mem _ mem)) n due

/-- What a drain does keeps account of what is due. -/
theorem Swept.after (swept : Swept history h) (going : event ≠ .began)
    (drained : event.drained = effect) (drains : role ≠ .bystander)
    (allowed : h.Allows role effect) (answered : s.Answers draining effect t)
    (turn : h.Alone → others = []) (hand : inHand history = h.text ++ others)
    (sent : event.drained ≠ .unsent)
    (balance : relayed history ++ inHand history ++ s.captured = printed history) :
    Swept (event :: history) (h.after role effect) := by
  intro before since trace unfailed
  rw [RelayTrace.of_cons going, drained] at trace
  have known : printed before <+: printed history ∧ event.drained ≠ .failed ∧
      (Owed (printed before) history h ∨ ∃ unread, effect = .counted unread) := by
    have later : ∀ {rest}, since = event :: rest → RelayTrace.of history = .sweeping before rest →
        printed before <+: printed history ∧ event.drained ≠ .failed ∧
          (Owed (printed before) history h ∨ ∃ unread, effect = .counted unread) := by
      rintro rest rfl here
      refine ⟨RelayTrace.printed_before here, unfailed event List.mem_cons_self, .inl ?_⟩
      exact swept before rest here fun other mem => unfailed other (List.mem_cons_of_mem _ mem)
    cases effect with
    | counted unread =>
      rcases RelayTrace.counted_eq_sweeping trace with ⟨rfl, -, -⟩ | ⟨rest, same, here⟩
      · exact ⟨List.prefix_rfl, fun same => (nomatch drained.symm.trans same), .inr ⟨unread, rfl⟩⟩
      · exact later same here
    | started => cases trace
    | stopped => cases trace
    | _ =>
      rcases RelayTrace.later_eq_sweeping trace with ⟨rest, same, here⟩
      exact later same here
  rcases known with ⟨bound, read, owed⟩
  exact Owed.after owed bound drained drains allowed answered turn hand sent read balance

end Sweep

/-! ## What every step keeps -/

/-- Every broadcast of a drain was successful. -/
def Sent (history : List Event) : Prop :=
  ∀ event ∈ history, event.drained ≠ .unsent

theorem Sent.earlier {event : Event} {history : List Event} (sent : Sent (event :: history)) :
    Sent history :=
  fun other mem => sent other (List.mem_cons_of_mem _ mem)

/-- What the kernel holds between two cells and within a stage. -/
def KernelThread.Holds (own : Hold) : KernelThread → Prop
  | idle _ => own.Free ∧ own.phase.Over ∧ (own.phase = .sweeping → own.due = some 0)
  | within stage rest =>
    (rest.Keeps (Hold.rules stage.role) own fun t result => stage.Leaves result t) ∧
      (stage.role = .bystander → own.Free)

namespace Desk

/-- What every step keeps, for what the kernel and the relay's drain hold. -/
structure Kept (c : Desk) (own relay : Hold) : Prop where
  thread : c.thread.Holds own
  drain : ∀ rest, c.drain = some rest →
    rest.Keeps (Hold.rules .draining) relay fun t _ => t.Free
  locks : Locks c.shared c.drain.isSome own relay
  phase : (RelayTrace.of c.history).phase = own.phase
  hand : inHand c.history = own.text ++ relay.text
  balance : Sent c.history →
    relayed c.history ++ inHand c.history ++ c.shared.captured = printed c.history
  swept : Sent c.history → Swept c.history own

namespace Kept

variable {c : Desk} {own relay : Hold}

theorem initial : Kept .initial ⟨.absent, false, [], none⟩ ⟨.polling, false, [], none⟩ where
  thread := ⟨⟨rfl, rfl⟩, .inl rfl, fun same => (nomatch same)⟩
  drain := fun _ running => (nomatch running)
  locks := ⟨fun polling => (nomatch polling), fun underWay => (nomatch underWay), rfl,
    fun _ => ⟨rfl, rfl⟩, rfl, fun _ => rfl, fun some => absurd rfl some,
    fun some => absurd rfl some⟩
  phase := rfl
  hand := rfl
  balance := fun _ => rfl
  swept := fun _ _ _ trace => (nomatch trace)

theorem print (kept : c.Kept own relay) (text : List Char) :
    Kept { c with
      shared := { c.shared with captured := c.shared.captured ++ text }
      history := .printed text :: c.history } own relay where
  thread := kept.thread
  drain := kept.drain
  locks := kept.locks.own_holds kept.locks.ownAlone
  phase := (RelayTrace.phase_later _).trans kept.phase
  hand := kept.hand
  balance sent := by
    have before := kept.balance sent.earlier
    rw [relayed_of_other rfl, inHand_of_other rfl, printed, ← before]
    simp [Event.output]
  swept sent := (kept.swept sent.earlier).of_other (fun same => nomatch same) rfl

theorem begin (kept : c.Kept own relay) {last : Option CellStage.Ending}
    (idle : c.thread = .idle last) (k : Kernel) (source : String) (parent : Json) :
    Kept { c with
      thread := .within (.announcing k source parent) (CellStage.announcing k source parent).program
      history := .began :: c.history } { own with phase := .absent } relay := by
  have thread := kept.thread
  rw [idle] at thread
  obtain ⟨free, quiet, -⟩ := thread
  have locks := kept.locks
  refine ⟨⟨CellStage.keeps _ free rfl, fun _ => free⟩, kept.drain, ?_, rfl, kept.hand, ?_, ?_⟩
  · refine ⟨fun polling => absurd (locks.polling polling) quiet.ne_polling, fun underWay => ?_,
      locks.relayPhase, locks.relayFree, locks.guarded, locks.apart,
      fun some => absurd free.2 some, locks.relayAlone⟩
    exact absurd (locks.underWay underWay) quiet.ne_polling
  · intro sent
    have before := kept.balance sent.earlier
    rw [relayed_of_other rfl, inHand_of_other rfl, printed_of_exchange rfl, ← before]
  · exact fun _ _ _ trace => (nomatch trace)

/-- The kernel takes part in an exchange. -/
theorem exchange (kept : c.Kept own relay) {stage : CellStage} {r : Host.Request}
    {next : Host.Answer r → Act stage.Result} {answer : Host.Answer r} {t : Shared}
    (within : c.thread = .within stage (.ask r next))
    (answered : c.shared.Answers c.drain.isSome (Exchange.effect ⟨r, answer⟩) t) :
    Kept { c with
      thread := .within stage (next answer)
      shared := t
      history := .exchanged (.kernel stage) ⟨r, answer⟩ :: c.history }
      (own.after stage.role (Exchange.effect ⟨r, answer⟩)) relay := by
  have thread := kept.thread
  rw [within] at thread
  obtain ⟨keeps, free⟩ := thread
  obtain ⟨allowed, later⟩ := keeps answer
  have going : Event.exchanged (.kernel stage) ⟨r, answer⟩ ≠ .began := fun same => nomatch same
  by_cases role : stage.role = .bystander
  · have other : (Event.exchanged (.kernel stage) ⟨r, answer⟩).drained = .other := if_pos role
    have calm : t = c.shared ∧ own.after stage.role (Exchange.effect ⟨r, answer⟩) = own := by
      rw [role] at allowed ⊢
      exact Hold.bystander_cases allowed answered
    obtain ⟨rfl, same⟩ := calm
    change Program.Keeps _ _ (own.after stage.role (Exchange.effect ⟨r, answer⟩)) _ at later
    rw [same] at later ⊢
    refine ⟨⟨later, free⟩, kept.drain, kept.locks, ?_, ?_, fun sent => ?_, fun sent => ?_⟩
    · rw [RelayTrace.of_cons going, other]
      exact (RelayTrace.phase_later _).trans kept.phase
    · rw [inHand_of_other other]
      exact kept.hand
    · rw [relayed_of_other other, inHand_of_other other, printed_of_exchange rfl]
      exact kept.balance sent.earlier
    · exact (kept.swept sent.earlier).of_other going other
  · have drained : (Event.exchanged (.kernel stage) ⟨r, answer⟩).drained =
        Exchange.effect ⟨r, answer⟩ := if_neg role
    have turn := fun alone : own.Alone => kept.locks.relay_text alone
    refine ⟨⟨later, fun same => absurd same role⟩, kept.drain,
      kept.locks.own_after allowed answered, ?_,
      inHand_after drained role allowed turn kept.hand, fun sent => ?_, fun sent => ?_⟩
    · exact RelayTrace.phase_after going drained role kept.phase
    · exact balance_after drained rfl role allowed answered turn kept.hand
        (sent _ List.mem_cons_self) (kept.balance sent.earlier)
    · exact (kept.swept sent.earlier).after going drained role allowed answered turn kept.hand
        (sent _ List.mem_cons_self) (kept.balance sent.earlier)

/-- The kernel goes on to another stage. -/
theorem advance (kept : c.Kept own relay) {stage later : CellStage} {result : stage.Result}
    (within : c.thread = .within stage (.done result)) (next : stage.next result = .inl later) :
    Kept { c with thread := .within later later.program } own relay := by
  have thread := kept.thread
  rw [within] at thread
  obtain ⟨⟨free, phase, -⟩, -⟩ := thread
  have entry := phase.trans (CellStage.entry_of_next next).symm
  exact ⟨⟨later.keeps free entry, fun _ => free⟩, kept.drain, kept.locks, kept.phase, kept.hand,
    kept.balance, kept.swept⟩

theorem finish (kept : c.Kept own relay) {stage : CellStage} {result : stage.Result}
    {ending : CellStage.Ending} (within : c.thread = .within stage (.done result))
    (next : stage.next result = .inr ending) :
    Kept { c with thread := .idle (some ending) } own relay := by
  have thread := kept.thread
  rw [within] at thread
  obtain ⟨⟨free, phase, due⟩, -⟩ := thread
  have quiet : own.phase.Over := phase ▸ CellStage.exit_of_end next
  exact ⟨⟨free, quiet, due⟩, kept.drain, kept.locks, kept.phase, kept.hand, kept.balance,
    kept.swept⟩

/-- The relay begins to drain. -/
theorem poll (kept : c.Kept own relay) (chunk : Nat) (polling : c.shared.polling = true)
    (resting : c.drain = none) :
    Kept { c with drain := some (Streaming.drain chunk) } own relay := by
  have locks := kept.locks
  have free : relay.Free := locks.relayFree (by rw [resting]; rfl)
  refine ⟨kept.thread, ?_, ?_, kept.phase, kept.hand, kept.balance, kept.swept⟩
  · intro rest same
    obtain rfl := Option.some.inj same
    have drains : CellStage.Role.draining ≠ .bystander := fun same => nomatch same
    refine (Streaming.drain_keeps chunk drains free).imp ?_
    rintro _ _ rfl
    exact free
  · exact ⟨locks.polling, fun _ => locks.polling polling, locks.relayPhase,
      fun idle => (nomatch idle), locks.guarded, locks.apart, locks.ownAlone, locks.relayAlone⟩

/-- The relay takes part in an exchange. -/
theorem relayExchange (kept : c.Kept own relay) {r : Host.Request}
    {next : Host.Answer r → Act Bool} {answer : Host.Answer r} {t : Shared}
    (underWay : c.drain = some (.ask r next))
    (answered : c.shared.Answers true (Exchange.effect ⟨r, answer⟩) t) :
    Kept { c with
      drain := some (next answer)
      shared := t
      history := .exchanged .relay ⟨r, answer⟩ :: c.history }
      own (relay.after .draining (Exchange.effect ⟨r, answer⟩)) := by
  obtain ⟨allowed, later⟩ := kept.drain _ underWay answer
  have locks := kept.locks
  rw [underWay] at locks
  have going : Event.exchanged .relay ⟨r, answer⟩ ≠ .began := fun same => nomatch same
  have drained : (Event.exchanged .relay ⟨r, answer⟩).drained = Exchange.effect ⟨r, answer⟩ := rfl
  have drains : CellStage.Role.draining ≠ .bystander := fun same => nomatch same
  have turn := fun alone => locks.own_text alone
  have running : own.phase = .polling := locks.underWay rfl
  have swapped : inHand c.history = relay.text ++ own.text := by
    rw [kept.hand, locks.text_comm]
  have still : own.phase = (relay.after .draining (Exchange.effect ⟨r, answer⟩)).phase := by
    rw [running]
    exact ((locks.relay_after allowed answered).relayPhase).symm
  refine ⟨kept.thread, ?_, locks.relay_after allowed answered, ?_, ?_, fun sent => ?_,
    fun sent => ?_⟩
  · intro rest same
    obtain rfl := Option.some.inj same
    exact later
  · rw [still]
    exact RelayTrace.phase_after going drained drains
      (kept.phase.trans (running.trans locks.relayPhase.symm))
  · rw [inHand_after drained drains allowed turn swapped]
    exact ((locks.relay_after allowed answered).text_comm).symm
  · exact balance_after drained rfl drains allowed answered turn swapped
      (sent _ List.mem_cons_self) (kept.balance sent.earlier)
  · -- while the relay drains it was not told to stop
    intro before since trace
    have phase : (RelayTrace.of (.exchanged .relay ⟨r, answer⟩ :: c.history)).phase =
        own.phase := by
      rw [still]
      exact RelayTrace.phase_after going drained drains
        (kept.phase.trans (running.trans locks.relayPhase.symm))
    rw [trace, running] at phase
    cases phase

/-- The relay has drained. -/
theorem rest (kept : c.Kept own relay) {printed : Bool} (ended : c.drain = some (.done printed)) :
    Kept { c with drain := none } own relay := by
  have locks := kept.locks
  have free : relay.Free := kept.drain _ ended
  refine ⟨kept.thread, fun _ running => (nomatch running), ?_, kept.phase, kept.hand,
    kept.balance, kept.swept⟩
  exact ⟨locks.polling, fun underWay => (nomatch underWay), locks.relayPhase, fun _ => free,
    locks.guarded, locks.apart, locks.ownAlone, locks.relayAlone⟩

/-- Every step keeps it, for what is held afterwards. -/
theorem step (kept : c.Kept own relay) {d : Desk} (step : Step c d) :
    ∃ own relay, d.Kept own relay := by
  cases step with
  | print text => exact ⟨_, _, kept.print text⟩
  | begin k source parent idle => exact ⟨_, _, kept.begin idle k source parent⟩
  | exchange answer t within answered => exact ⟨_, _, kept.exchange within answered⟩
  | advance within next => exact ⟨_, _, kept.advance within next⟩
  | finish within next => exact ⟨_, _, kept.finish within next⟩
  | poll chunk polling resting => exact ⟨_, _, kept.poll chunk polling resting⟩
  | relayExchange answer t underWay answered => exact ⟨_, _, kept.relayExchange underWay answered⟩
  | rest ended => exact ⟨_, _, kept.rest ended⟩

end Kept

/-- So every run keeps it. -/
theorem Reachable.kept {c : Desk} (reach : c.Reachable) : ∃ own relay, c.Kept own relay := by
  induction reach with
  | refl => exact ⟨_, _, .initial⟩
  | tail _ step ih =>
    obtain ⟨own, relay, kept⟩ := ih
    exact kept.step step

/-- No drain is under way. -/
def Settled (c : Desk) : Prop :=
  c.drain = none ∧ ∀ stage rest, c.thread = .within stage rest → stage.role = .bystander

/-- If broadcasts succeed, the text of all that drains broadcast, in the order in which they did,
then what a drain has in hand, then what is still captured, is all that the target printed. Between
drains nothing is in hand. And when a cell has returned, its relay, if it had one, has made its
final drain, and unless a read of it failed, all that was printed before it has been broadcast. -/
theorem Reachable.output_kept {c : Desk} (reach : c.Reachable) (sent : Sent c.history) :
    relayed c.history ++ inHand c.history ++ c.shared.captured = printed c.history ∧
      (c.Settled → inHand c.history = []) ∧
      ∀ ending, c.thread = .idle (some ending) →
        match RelayTrace.of c.history with
        | .absent => True
        | .polling | .stopped => False
        | .sweeping before since =>
          (∀ event ∈ since, event.drained ≠ .failed) → printed before <+: relayed c.history := by
  obtain ⟨own, relay, kept⟩ := reach.kept
  have balance := kept.balance sent
  refine ⟨balance, ?_, ?_⟩
  · rintro ⟨resting, bystander⟩
    have free : relay.Free := kept.locks.relayFree (by rw [resting]; rfl)
    have unheld : own.Free := by
      have thread := kept.thread
      cases within : c.thread with
      | idle last =>
        rw [within] at thread
        exact thread.1
      | within stage rest =>
        rw [within] at thread
        exact thread.2 (bystander stage rest within)
    rw [kept.hand, unheld.2, free.2]
    rfl
  · intro ending idle
    have thread := kept.thread
    rw [idle] at thread
    obtain ⟨unheld, quiet, due⟩ := thread
    have resting : c.drain.isSome = false := by
      cases underWay : c.drain.isSome with
      | false => rfl
      | true => exact absurd (kept.locks.underWay underWay) quiet.ne_polling
    have hand : inHand c.history = [] := by
      rw [kept.hand, unheld.2, (kept.locks.relayFree resting).2]
      rfl
    have phase := kept.phase
    cases trace : RelayTrace.of c.history with
    | absent => trivial
    | polling =>
      rw [trace] at phase
      exact quiet.ne_polling phase.symm
    | stopped =>
      rw [trace] at phase
      rcases quiet with absent | sweeping
      · exact nomatch phase.trans absent
      · exact nomatch phase.trans sweeping
    | sweeping before since =>
      intro unfailed
      rw [trace] at phase
      have enough := kept.swept sent before since trace unfailed 0 (due phase.symm)
      rw [hand, List.append_nil] at balance
      have all : relayed c.history <+: printed c.history := ⟨_, balance⟩
      refine List.prefix_of_prefix_length_le (RelayTrace.printed_before trace) all ?_
      rw [unheld.2] at enough
      exact enough

instance (history : List Event) : Decidable (Sent history) :=
  inferInstanceAs (Decidable (∀ event ∈ history, event.drained ≠ .unsent))

/-- An evaluation, with what comes of it. -/
def evaluationLog (code : String) (result : Except Error Evaluation) : List (Exchange Host) :=
  [⟨Host.Request.lockTarget, ()⟩, ⟨Host.Request.setBusy true, ()⟩,
    ⟨Host.Request.debugger (.evaluate ((default : Kernel).located code) default), result⟩,
    ⟨Host.Request.setBusy false, ()⟩, ⟨Host.Request.unlockTarget, ()⟩]

/-- It announces the request of a cell. -/
theorem gives_contextLog : ((default : Kernel).announceRequest .null).run.Gives
    (evaluationLog (TargetLanguage.swift.setContext Json.null.render) (.ok .valueless)) (.ok ()) :=
  .ask _ _ (.ask _ _ (.ask _ _ (.ask _ _ (.ask _ _ (.done _)))))

/-- It executes a cell without a value. -/
theorem gives_valuelessLog (code : String) : ((default : Kernel).execute code).run.Gives
    (evaluationLog code (.ok .valueless)) (.ok .finished) :=
  .ask _ _ (.ask _ _ (.ask _ _ (.ask _ _ (.ask _ _ (.done _)))))

theorem answersAll_evaluationLog (s : Shared) (code : String) (result : Except Error Evaluation) :
    s.AnswersAll (evaluationLog code result) s :=
  .cons rfl (.cons rfl (.cons rfl (.cons rfl (.cons rfl (.nil s)))))

/-- Reads of everything that is captured, and its broadcast. -/
def readLog (text : String) : List (Exchange Host) :=
  [⟨Host.Request.debugger .unreadOutput, text.length⟩,
    ⟨Host.Request.debugger (.takeOutput 1000), Except.ok text⟩,
    ⟨Host.Request.debugger (.takeOutput 1000), Except.ok ""⟩,
    ⟨Host.Request.broadcast (.notification (.stdout text)), Except.ok ()⟩]

/-- Such reads leave nothing. -/
theorem answersAll_readLog {s t : Shared} {text : String} {log : List (Exchange Host)}
    (some : text ≠ "") (captured : s.captured = text.toList)
    (later : Shared.AnswersAll { s with captured := [] } log t) :
    s.AnswersAll (readLog text ++ log) t := by
  have taken : text.toList ≠ [] := by simpa using some
  have enough : s.captured.length ≤ text.length :=
    Nat.le_of_eq (by rw [captured, String.length_toList])
  have all : s.captured = text.toList ++ [] := by simp [captured]
  exact .cons ⟨enough, rfl⟩ (.cons (t := { s with captured := [] }) ⟨all, fun _ => taken, rfl⟩
    (.cons ⟨rfl, fun none => absurd rfl none, rfl⟩ (.cons rfl later)))

/-- Such reads are those of a drain. -/
theorem gives_readLog {text : String} (some : text ≠ "") :
    (Streaming.broadcastUnread 1000).Gives (readLog text) true := by
  obtain ⟨n, length⟩ : ∃ n, text.length = n + 1 :=
    Nat.exists_eq_succ_of_ne_zero fun none => some (String.length_eq_zero_iff.mp none)
  have read : (Streaming.collect 1000 (text.length + 1) "").Gives
      [⟨Host.Request.debugger (.takeOutput 1000), Except.ok text⟩,
        ⟨Host.Request.debugger (.takeOutput 1000), Except.ok ""⟩] text := by
    refine .ask _ _ ?_
    change (if text = "" then _ else Streaming.collect 1000 text.length ("" ++ text)).Gives _ _
    rw [if_neg some, String.empty_append, length]
    exact .ask _ _ (.done text)
  have sent : (if text = "" then Program.done false else
      (Act.broadcastOrWarn .relay "publish target stdout:"
        (.notification (.stdout text))).bind fun _ => .done true).Gives
      [⟨Host.Request.broadcast (.notification (.stdout text)), Except.ok ()⟩] true := by
    rw [if_neg some]
    exact .ask _ _ (.done true)
  exact .ask _ _ (read.bind sent)

/-- A drain that takes all that is captured. -/
def drainLog (before : Bool) (text : String) : List (Exchange Host) :=
  ⟨Host.Request.takeGuard, before⟩ :: (readLog text ++ [⟨Host.Request.releaseGuard true, ()⟩])

theorem gives_drainLog {text : String} (some : text ≠ "") (before : Bool) :
    (Streaming.drain 1000).Gives (drainLog before text) true := by
  have released : (Streaming.drain 1000).Gives (drainLog before text) (before || true) := by
    refine .ask _ _ ((gives_readLog some).bind ?_)
    rw [Bool.or_true]
    exact .ask _ _ (.done _)
  rwa [Bool.or_true] at released

/-- It finds the guard free and leaves nothing. -/
theorem answersAll_drainLog {s : Shared} {text : String} (some : text ≠ "")
    (captured : s.captured = text.toList) (free : s.guarded = false) :
    s.AnswersAll (drainLog s.printed text) { s with captured := [], printed := true } := by
  obtain ⟨_, polling, _, printed⟩ := s
  subst captured free
  exact .cons ⟨rfl, rfl, rfl⟩ (answersAll_readLog some rfl (.cons rfl (.nil _)))

/-- A cell that is to be evaluated. The target printed before it, and the start of its relay has
broadcast that. -/
def evaluating : Desk where
  thread := .within (.executing default "x") (CellStage.executing default "x").program
  drain := none
  shared := { captured := [], polling := true, guarded := false, printed := false }
  history :=
    ((readLog "a" ++ [(⟨Host.Request.startPolling, Except.ok ()⟩ : Exchange Host)]).map
      (Event.exchanged (.kernel (.starting default "x")))).reverse ++
    ((evaluationLog (TargetLanguage.swift.setContext Json.null.render) (.ok .valueless)).map
      (Event.exchanged (.kernel (.announcing default "x" .null)))).reverse ++
    [.began, .printed "a".toList]

theorem Reachable.evaluating : evaluating.Reachable := by
  have started : (Streaming.start 1000).run.Gives
      (readLog "a" ++ [⟨Host.Request.startPolling, Except.ok ()⟩]) (.ok ()) :=
    (gives_readLog (by decide)).bind (.ask _ _ (.done _))
  have printing := (Relation.ReflTransGen.refl : initial.Reachable).tail (.print "a".toList)
  have announcing := printing.tail (.begin default "x" .null rfl)
  have expanding := Reachable.passes announcing rfl rfl gives_contextLog
    (answersAll_evaluationLog _ _ _) rfl
  have starting := expanding.tail (.advance rfl rfl)
  exact Reachable.passes starting rfl rfl started
    (answersAll_readLog (by decide) rfl (.cons rfl (.nil _))) rfl

/-- The target prints before a cell and while its evaluation fails; the relay broadcasts both. -/
theorem Reachable.output_kept_failed_cell :
    ∃ c : Desk, c.Reachable ∧ Sent c.history ∧ printed c.history = "ab".toList ∧
      relayed c.history ++ inHand c.history ++ c.shared.captured = "ab".toList ∧
      inHand c.history = [] ∧
      ∃ before since, RelayTrace.of c.history = .sweeping before since ∧
        printed before <+: relayed c.history := by
  have executed : ((default : Kernel).execute "x").run.Gives
      (evaluationLog "x" (.error .disconnected)) (.error .disconnected) :=
    .ask _ _ (.ask _ _ (.ask _ _ (.ask _ _ (.ask _ _ (.done _)))))
  have stopped : (Streaming.stop 1000).Gives
      (⟨Host.Request.stopPolling, ()⟩ :: drainLog false "b") true :=
    .ask _ _ (gives_drainLog (by decide) false)
  have failing := (Reachable.alone Reachable.evaluating rfl rfl executed
    (answersAll_evaluationLog _ _ _)).tail (.print "b".toList)
  have stopping := failing.tail (.advance rfl rfl)
  have idle := Reachable.returns stopping rfl rfl stopped
    (.cons ⟨rfl, rfl⟩ (answersAll_drainLog (by decide) rfl rfl)) rfl
  have kept := Reachable.output_kept idle (by decide)
  exact ⟨_, idle, by decide, rfl, kept.1, kept.2.1 ⟨rfl, fun _ _ within => nomatch within⟩, _, _,
    rfl, kept.2.2 _ rfl (by decide)⟩

end Desk
end NotebookKernel
