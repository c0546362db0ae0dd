import NotebookKernel.Proofs.Cell.Upkeep
import NotebookKernel.Proofs.Cell.Worlds

/-!
The cells after a cell do not feel what went wrong with it.

Debugger, channel and files may fail at any call of any cell. All that a history of cells leaves is
a kernel with its relay, its lock and its flag, and in these the faults do not show. What an earlier
relay remembered may differ, but nobody asks for it: a cell takes the guard of its own relay only.
`History.no_residue` compares the next cell after two histories.
-/

namespace NotebookKernel

/-! ## Histories of cells -/

/-- One cell after the other, whatever goes wrong with them. Between two of them the number of the
current cell may go on. -/
inductive History (s : Standing) : List CellRun → Standing → Prop
  | none : History s [] s
  | counted {cells : List CellRun} {t : Standing} :
    History s cells t → History s cells { t with kernel := t.kernel.nextCell }
  | cell {cells : List CellRun} {cell : CellRun} :
    History s cells cell.before → cell.Possible → History s (cells ++ [cell]) cell.after

/-- The kernel without all that cells and their requests may change, and without the width of
integers. -/
def Kernel.setup (k : Kernel) : Kernel :=
  { k with
    session := { k.session with nativeWidth := none }
    completion := { k.completion with enabled := false }
    counter := 0 }

theorem Kernel.eq_of_setup {k l : Kernel} (setup : k.setup = l.setup)
    (counter : k.counter = l.counter) (width : k.session.nativeWidth = l.session.nativeWidth)
    (enabled : k.completion.enabled = l.completion.enabled) : k = l := by
  obtain ⟨⟨thread, options, _⟩, expander, ⟨supported, _⟩, _, chunk⟩ := k
  obtain ⟨⟨thread', options', _⟩, expander', ⟨supported', _⟩, _, chunk'⟩ := l
  simp only [Kernel.setup, Kernel.mk.injEq, Session.mk.injEq, CompletionState.mk.injEq] at *
  simp [*]

namespace History

variable {s t : Standing} {cells : List CellRun}

theorem atRest (history : History s cells t) (rest : s.AtRest) : t.AtRest := by
  induction history with
  | none => exact rest
  | counted _ ih => exact ⟨ih.relay, ih.free⟩
  | cell _ possible ih => exact possible.atRest ih

/-- No cell of a history leaves anything behind. -/
theorem leavesNothing (history : History s cells t) (rest : s.AtRest) :
    ∀ cell ∈ cells, cell.LeavesNothing := by
  induction history with
  | none => exact List.forall_mem_nil _
  | counted _ ih => exact ih
  | cell before possible ih =>
    refine List.forall_mem_append.mpr ⟨ih, List.forall_mem_singleton.mpr ?_⟩
    exact possible.leavesNothing (before.atRest rest)

theorem setup (history : History s cells t) (rest : s.AtRest) :
    t.kernel.setup = s.kernel.setup := by
  induction history with
  | none => rfl
  | counted _ ih => exact ih
  | cell before possible ih =>
    obtain ⟨completion, supported, same⟩ := possible.kernel (before.atRest rest)
    rw [same, ← ih]
    simp [Kernel.setup, supported]

end History

/-! ## Surroundings that decide everything -/

/-- Surroundings whose state decides what is answered, and whether the kernel or its relay is next.
It is the state of the debugger with all captured output, of the target, the files and the
channel. -/
structure Clockwork (σ : Type) where
  /-- How many bytes a read of the relay takes at most. -/
  chunk : Nat
  relayNext : σ → Bool
  answer : σ → (r : Host.Request) → Host.Answer r
  after : σ → Host.Request → σ

/-- Everything around a kernel at one moment. -/
structure Room (σ : Type) where
  outside : σ
  relay : Relay
  upkeep : Upkeep

/-- Nobody has to wait with this request: the lock and the guard are taken when they are free, and
the polling is stopped between two drains. -/
def Room.permits {σ : Type} (s : Room σ) : Host.Request → Bool
  | .lockTarget => !s.upkeep.locked
  | .takeGuard => !s.upkeep.guarded
  | .stopPolling => s.relay.drain.isNone
  | _ => true

namespace Relay

/-- What the relay does next, if it does something: it goes on with a drain, or begins one. -/
def underWay (c : Relay) (chunk : Nat) : Act Bool :=
  c.drain.getD (Streaming.drain chunk)

/-- The relay when this is left of its drain. -/
def goingOn (c : Relay) : Act Bool → Relay
  | .done _ => { c with drain := none }
  | rest => { c with drain := some rest }

end Relay

/-- A relay with a drain that is under way, or with one to begin, may go on with it. -/
theorem Relay.Moves.of_underWay {c d : Relay} {chunk : Nat} {r : Host.Request}
    {rest : Host.Answer r → Act Bool} {log : List Turn}
    (active : c.polling = true ∨ c.drain ≠ none) (underWay : c.underWay chunk = .ask r rest)
    (answer : Host.Answer r) (moves : (c.goingOn (rest answer)).Moves log d) :
    c.Moves (⟨true, ⟨r, answer⟩⟩ :: log) d := by
  have later : Moves { c with drain := some (rest answer) } log d := by
    cases left : rest answer with
    | done printed =>
      rw [left] at moves
      exact .rest rfl moves
    | ask r' rest' =>
      rw [left] at moves
      exact moves
  rw [Relay.underWay] at underWay
  cases drain : c.drain with
  | some begun =>
    rw [drain] at underWay
    exact .ask answer (drain.trans (congrArg some underWay)) later
  | none =>
    rw [drain] at underWay
    have polling : c.polling = true := active.resolve_right fun busy => busy drain
    exact .poll chunk polling drain (.ask answer (congrArg some underWay) later)

theorem Room.permits_relay {σ : Type} {s : Room σ} {r : Host.Request}
    (permits : s.permits r = true) : s.relay.Permits r := by
  cases r with
  | stopPolling => exact Option.isNone_iff_eq_none.mp permits
  | _ => trivial

namespace Clockwork

variable {σ α : Type} (w : Clockwork σ)

/-- The answer to a request. -/
def reply (s : Room σ) : (r : Host.Request) → Host.Answer r
  | .isBusy => s.upkeep.busy
  | .takeGuard => s.upkeep.printed
  | r => w.answer s.outside r

/-- The room after a request of the kernel. -/
def next (s : Room σ) (r : Host.Request) : Room σ :=
  ⟨w.after s.outside r, s.relay.after ⟨r, w.reply s r⟩, s.upkeep.after ⟨r, w.reply s r⟩⟩

/-- The run of a program of the kernel, with a relay beside it. -/
inductive Plays : Room σ → Act α → List Turn → Room σ → α → Prop
  | done (s : Room σ) (a : α) : Plays s (.done a) [] s a
  | own {s t : Room σ} {r : Host.Request} {next : Host.Answer r → Act α} {log : List Turn} {a : α} :
    w.relayNext s.outside = false → s.permits r = true →
      Plays (w.next s r) (next (w.reply s r)) log t a →
        Plays s (.ask r next) (.own ⟨r, w.reply s r⟩ :: log) t a
  | relay {s t : Room σ} {r r' : Host.Request} {rest : Host.Answer r → Act Bool}
      {next : Host.Answer r' → Act α} {log : List Turn} {a : α} :
    w.relayNext s.outside = true → s.relay.polling = true ∨ s.relay.drain ≠ none →
      s.relay.underWay w.chunk = .ask r rest → s.permits r = true →
        Plays { w.next s r with relay := s.relay.goingOn (rest (w.reply s r)) } (.ask r' next)
            log t a →
          Plays s (.ask r' next) (⟨true, ⟨r, w.reply s r⟩⟩ :: log) t a

variable {w} {s t t' : Room σ} {p : Act α} {log log' : List Turn} {a a' : α}

/-- There is one such run. -/
theorem Plays.unique (one : w.Plays s p log t a) (other : w.Plays s p log' t' a') :
    log = log' ∧ t = t' ∧ a = a' := by
  induction one generalizing log' with
  | done s a =>
    cases other with
    | done => exact ⟨rfl, rfl, rfl⟩
  | own turn _ _ ih =>
    cases other with
    | own _ _ later =>
      obtain ⟨rfl, rfl, rfl⟩ := ih later
      exact ⟨rfl, rfl, rfl⟩
    | relay relayTurn _ _ _ _ =>
      rw [turn] at relayTurn
      cases relayTurn
  | relay turn _ underWay _ _ ih =>
    cases other with
    | own ownTurn _ _ =>
      rw [turn] at ownTurn
      cases ownTurn
    | relay _ _ same _ later =>
      cases underWay.symm.trans same
      obtain ⟨rfl, rfl, rfl⟩ := ih later
      exact ⟨rfl, rfl, rfl⟩

/-- Such a run is one beside the relay. -/
theorem Plays.beside (run : w.Plays s p log t a) : Beside s.relay p log t.relay a := by
  induction run with
  | done s a => exact .done _ a
  | own _ permits _ ih => exact .ask _ (.refl _) (Room.permits_relay permits) ih
  | relay _ active underWay _ _ ih =>
    exact World.Beside.of_moved [_] (fun moves => .of_underWay active underWay _ moves) ih

theorem Plays.upkeep (run : w.Plays s p log t a) : t.upkeep = s.upkeep.afterAll log := by
  induction run with
  | done s a => rfl
  | own _ _ _ ih => exact ih
  | relay _ _ _ _ _ ih => exact ih

end Clockwork

/-! ## What an earlier relay remembered -/

/-- The guard of the relay is taken or given back, or there is another relay from then on. -/
def Exchange.Recalls : Exchange Host → Prop
  | ⟨.takeGuard, _⟩ | ⟨.releaseGuard _, ()⟩ | ⟨.startPolling, .ok ()⟩ => True
  | _ => False

namespace Exchange

variable {exchange : Exchange Host}

/-- Any other exchange starts no relay. -/
theorem still_of_not_recalls (other : ¬ exchange.Recalls) {g : Grip} (unstarted : g.started = false) :
    Relay.absent.after exchange = .absent ∧ (Grip.rules.after g exchange).started = false := by
  obtain ⟨r, answer⟩ := exchange
  cases r with
  | startPolling =>
    cases answer with
    | error e => exact ⟨rfl, unstarted⟩
    | ok _ => exact absurd trivial other
  | _ => exact ⟨rfl, unstarted⟩

/-- It goes past the memories of a relay. -/
theorem upkeep_of_not_recalls (other : ¬ exchange.Recalls) (u : Upkeep) (guarded printed : Bool) :
    Upkeep.after { u with guarded, printed } exchange =
      { u.after exchange with guarded, printed } := by
  obtain ⟨r, answer⟩ := exchange
  cases r with
  | startPolling =>
    cases answer with
    | error e => rfl
    | ok _ => exact absurd trivial other
  | takeGuard | releaseGuard _ => exact absurd trivial other
  | _ => rfl

end Exchange

/-- The room with other memories of a relay. -/
def Room.recalling {σ : Type} (s : Room σ) (guarded printed : Bool) : Room σ :=
  { s with upkeep := { s.upkeep with guarded, printed } }

namespace Clockwork

variable {σ α : Type} {w : Clockwork σ} {s t : Room σ} {p : Act α} {log : List Turn} {a : α}

/-- What goes past these memories is answered alike. -/
theorem recalling_of_not_recalls {r : Host.Request} (other : ¬ Exchange.Recalls ⟨r, w.reply s r⟩)
    (guarded printed : Bool) :
    (s.recalling guarded printed).permits r = s.permits r ∧
      w.reply (s.recalling guarded printed) r = w.reply s r ∧
      w.next (s.recalling guarded printed) r = (w.next s r).recalling guarded printed := by
  have reply : w.reply (s.recalling guarded printed) r = w.reply s r := by
    cases r <;> first | rfl | exact absurd trivial other
  refine ⟨by cases r <;> first | rfl | exact absurd trivial other, reply, ?_⟩
  unfold next
  rw [reply]
  exact congrArg _ (Exchange.upkeep_of_not_recalls other s.upkeep guarded printed)

/-- A program that asks for the guard only after it has started a relay does not notice what an
earlier relay remembered: its relay starts with fresh memories. -/
theorem Plays.recalling {g : Grip} {Q : Grip → α → Prop} (run : w.Plays s p log t a)
    (absent : s.relay = .absent) (keeps : p.Keeps Grip.rules g Q) (unstarted : g.started = false)
    (guarded printed : Bool) :
    ∃ t', w.Plays (s.recalling guarded printed) p log t' a ∧ t'.outside = t.outside := by
  induction run generalizing g with
  | done s a => exact ⟨_, .done _ a, rfl⟩
  | @own s t r next log a turn permits run ih =>
    obtain ⟨allowed, keeps⟩ := keeps (w.reply s r)
    by_cases recalls : Exchange.Recalls ⟨r, w.reply s r⟩
    · cases r with
      | startPolling =>
        have fresh : w.next (s.recalling guarded printed) .startPolling =
            w.next s .startPolling := by
          change Exchange.Recalls ⟨.startPolling, w.answer s.outside .startPolling⟩ at recalls
          unfold Clockwork.next
          change Room.mk _ _ (Upkeep.after _ ⟨.startPolling, w.answer s.outside .startPolling⟩) =
            Room.mk _ _ (Upkeep.after _ ⟨.startPolling, w.answer s.outside .startPolling⟩)
          cases started : w.answer s.outside .startPolling with
          | error e => rw [started] at recalls; exact recalls.elim
          | ok _ => rfl
        exact ⟨t, .own turn permits (fresh ▸ run), rfl⟩
      | takeGuard | releaseGuard _ => cases unstarted.symm.trans allowed
      | _ => cases recalls
    · obtain ⟨permits', reply, next_⟩ := recalling_of_not_recalls recalls guarded printed
      obtain ⟨gone, still⟩ := Exchange.still_of_not_recalls recalls unstarted
      obtain ⟨t', later, outside⟩ := ih ((congrArg (Relay.after · _) absent).trans gone) keeps still
      refine ⟨t', ?_, outside⟩
      rw [← next_, ← reply] at later
      rw [← reply]
      exact .own turn (permits'.trans permits) later
  | relay _ active _ _ _ _ =>
    rw [absent] at active
    rcases active with polling | underWay
    · cases polling
    · exact absurd rfl underWay

end Clockwork

/-! ## The next cell -/

namespace CellRun

variable {σ : Type} {w : Clockwork σ} {outside left left' : σ} {cell other : CellRun}

/-- The cell is run in a clockwork. -/
def PlaysIn (cell : CellRun) (w : Clockwork σ) (outside left : σ) : Prop :=
  w.Plays ⟨outside, cell.before.relay, cell.before.upkeep⟩
    ((Kernel.answerCell cell.source cell.parent).run cell.before.kernel) cell.turns
    ⟨left, cell.after.relay, cell.after.upkeep⟩ (cell.reply, cell.after.kernel)

theorem PlaysIn.possible (plays : cell.PlaysIn w outside left) : cell.Possible :=
  ⟨plays.beside, plays.upkeep⟩

/-- A cell that is run by equal kernels while nothing goes on is run alike, whatever their relays
once remembered. -/
theorem PlaysIn.alike (plays : cell.PlaysIn w outside left) (again : other.PlaysIn w outside left')
    (rest : cell.before.AtRest) (rest' : other.before.AtRest)
    (kernel : cell.before.kernel = other.before.kernel) (source : cell.source = other.source)
    (parent : cell.parent = other.parent) :
    cell.reply = other.reply ∧ cell.turns = other.turns ∧
      cell.after.kernel = other.after.kernel ∧ left = left' := by
  have room : (⟨outside, other.before.relay, other.before.upkeep⟩ : Room σ) =
      Room.recalling ⟨outside, cell.before.relay, cell.before.upkeep⟩
        other.before.upkeep.guarded other.before.upkeep.printed := by
    have locked := rest.free.1.trans rest'.free.1.symm
    have busy := rest.free.2.trans rest'.free.2.symm
    rw [rest.relay, rest'.relay]
    change _ = Room.mk outside .absent ⟨cell.before.upkeep.locked, cell.before.upkeep.busy,
      other.before.upkeep.guarded, other.before.upkeep.printed⟩
    rw [locked, busy]
  have keeps := Kernel.answerCell_keeps_grip cell.before.kernel cell.source cell.parent
    (g := ⟨false, false, false⟩) ⟨rfl, rfl⟩
  obtain ⟨t, same, outside_⟩ := Clockwork.Plays.recalling plays rest.relay keeps rfl
    other.before.upkeep.guarded other.before.upkeep.printed
  rw [← room, kernel, source, parent] at same
  obtain ⟨turns, rfl, ending⟩ := same.unique again
  obtain ⟨reply, after⟩ := Prod.mk.inj ending
  exact ⟨reply, turns, after, outside_.symm⟩

end CellRun

/-- Cells leave no residue, whatever goes wrong with them: none of a history leaves a relay, a lock
or a flag, or changes the number of the cell or the width of integers. After two histories of
kernels that were set up alike, if these two agree and completion is on after both or after none,
the same cell comes to the same: debugger and channel are asked the same in the same order, and the
reply is the same. -/
theorem History.no_residue {σ : Type} {w : Clockwork σ} {outside left left' : σ}
    {s s' : Standing} {cells cells' : List CellRun} {cell cell' : CellRun}
    (one : History s cells cell.before) (other : History s' cells' cell'.before)
    (rest : s.AtRest) (rest' : s'.AtRest) (setup : s.kernel.setup = s'.kernel.setup)
    (counter : cell.before.kernel.counter = cell'.before.kernel.counter)
    (width : cell.before.kernel.session.nativeWidth = cell'.before.kernel.session.nativeWidth)
    (enabled :
      cell.before.kernel.completion.enabled = cell'.before.kernel.completion.enabled)
    (source : cell.source = cell'.source) (parent : cell.parent = cell'.parent)
    (plays : cell.PlaysIn w outside left) (plays' : cell'.PlaysIn w outside left') :
    (∀ c ∈ cells ++ [cell] ++ (cells' ++ [cell']), c.LeavesNothing) ∧
      cell.reply = cell'.reply ∧ cell.turns = cell'.turns ∧
      cell.after.kernel = cell'.after.kernel ∧ left = left' := by
  have kernel : cell.before.kernel = cell'.before.kernel := by
    refine Kernel.eq_of_setup ?_ counter width enabled
    rw [one.setup rest, setup, other.setup rest']
  have nothing := (one.cell plays.possible).leavesNothing rest
  have nothing' := (other.cell plays'.possible).leavesNothing rest'
  refine ⟨List.forall_mem_append.mpr ⟨nothing, nothing'⟩, ?_⟩
  exact plays.alike plays' (one.atRest rest) (other.atRest rest') kernel source parent

/-- Before the first cell. -/
def Standing.initial (k : Kernel) : Standing :=
  ⟨k, .absent, ⟨false, false, false, false⟩⟩

/-- A clockwork in which every request has one answer and the relay is never next. -/
def Clockwork.constant (answer : (r : Host.Request) → Host.Answer r) : Clockwork Unit where
  chunk := 1000
  relayNext _ := false
  answer _ := answer
  after _ _ := ()

/-- The run of a program there, if it never has to wait. -/
def Clockwork.solo {α : Type} (w : Clockwork Unit) :
    Act α → Room Unit → Option (List Turn × Room Unit × α)
  | .done a, s => some ([], s, a)
  | .ask r next, s =>
    if w.relayNext s.outside = false ∧ s.permits r = true then
      (w.solo (next (w.reply s r)) (w.next s r)).map fun run =>
        (.own ⟨r, w.reply s r⟩ :: run.1, run.2)
    else none

theorem Clockwork.plays_of_solo {α : Type} {w : Clockwork Unit} {p : Act α} {s t : Room Unit}
    {log : List Turn} {a : α} (found : w.solo p s = some (log, t, a)) : w.Plays s p log t a := by
  induction p generalizing s log with
  | done a =>
    cases found
    exact .done _ a
  | ask r next ih =>
    rw [solo] at found
    split at found
    · next free =>
      obtain ⟨⟨log, t, a⟩, later, same⟩ := Option.map_eq_some_iff.mp found
      cases same
      exact .own free.1 free.2 (ih _ later)
    · cases found

/-- A cell that is run there. -/
def CellRun.solo (answer : (r : Host.Request) → Host.Answer r) (before : Standing)
    (source : String) : Option CellRun :=
  ((Clockwork.constant answer).solo ((Kernel.answerCell source .null).run before.kernel)
    ⟨(), before.relay, before.upkeep⟩).map fun run =>
      { before
        source
        parent := .null
        turns := run.1
        reply := run.2.2.1
        after := ⟨run.2.2.2, run.2.1.relay, run.2.1.upkeep⟩ }

theorem CellRun.playsIn_of_solo {answer : (r : Host.Request) → Host.Answer r} {before : Standing}
    {source : String} {cell : CellRun} (found : solo answer before source = some cell) :
    cell.PlaysIn (.constant answer) () () ∧ cell.before = before ∧ cell.source = source ∧
      cell.parent = .null := by
  obtain ⟨⟨log, t, reply, l⟩, run, rfl⟩ := Option.map_eq_some_iff.mp found
  exact ⟨Clockwork.plays_of_solo run, rfl, rfl, rfl⟩

/-- A debugger whose first answer about a cell is that it is gone. -/
def Host.faulty : (r : Host.Request) → Host.Answer r
  | .debugger (.evaluate code _) =>
    if code = (default : Kernel).located "x" then .error .disconnected else .ok .valueless
  | r => Host.constant r

/-- A cell that failed under its relay is not felt by the next one. -/
theorem History.no_residue_faulty :
    ∃ failed cell cell' : CellRun,
      History (.initial default) [failed] cell.before ∧
      History (.initial default) [] cell'.before ∧
      failed.reply.isOk = false ∧ failed.turns.any (·.exchange.effect = .started) ∧
      cell.PlaysIn (.constant Host.constant) () () ∧ cell.reply.isOk ∧
      cell'.PlaysIn (.constant Host.constant) () () ∧
      (∀ c ∈ [failed, cell, cell'], c.LeavesNothing) ∧
      cell.reply = cell'.reply ∧ cell.turns = cell'.turns ∧
      cell.after.kernel = cell'.after.kernel := by
  have fails : (CellRun.solo Host.faulty (.initial default) "x").any fun failed =>
      failed.reply.isOk = false ∧ failed.turns.any (·.exchange.effect = .started) ∧
        failed.after.kernel.completion.enabled = false ∧
        (CellRun.solo Host.constant failed.after "y").any fun cell => cell.reply.isOk := by
    decide +kernel
  have goes : (CellRun.solo Host.constant (.initial default) "y").isSome := by
    decide +kernel
  obtain ⟨failed, first, checked⟩ := (Option.any_eq_true _ _).mp fails
  obtain ⟨unsuccessful, started, disabled, second⟩ := of_decide_eq_true checked
  obtain ⟨cell, second, successful⟩ := (Option.any_eq_true _ _).mp second
  obtain ⟨cell', alone⟩ := Option.isSome_iff_exists.mp goes
  obtain ⟨played, before, -, -⟩ := CellRun.playsIn_of_solo first
  obtain ⟨plays, after, source, parent⟩ := CellRun.playsIn_of_solo second
  obtain ⟨plays', before', source', parent'⟩ := CellRun.playsIn_of_solo alone
  have rest : (Standing.initial default).AtRest := ⟨rfl, rfl, rfl⟩
  have one : History (.initial default) ([] ++ [failed]) cell.before := by
    rw [after]
    refine .cell ?_ played.possible
    rw [before]
    exact .none
  have other : History (.initial default) [] cell'.before := by
    rw [before']
    exact .none
  have leaves := one.leavesNothing rest failed (List.mem_append_right _ List.mem_cons_self)
  have alike := one.no_residue other rest rest rfl (by rw [after, before', leaves.counter, before])
    (by rw [after, before', leaves.width, before]) (by rw [after, before', disabled]; rfl)
    (source.trans source'.symm) (parent.trans parent'.symm) plays plays'
  obtain ⟨nothing, reply, turns, kernel, -⟩ := alike
  exact ⟨failed, cell, cell', one, other, unsuccessful, started, plays, successful, plays',
    nothing, reply, turns, kernel⟩

end NotebookKernel
