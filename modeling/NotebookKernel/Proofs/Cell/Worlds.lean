import NotebookKernel.Proofs.Cell.Asides

/-!
A failing channel changes nothing.

A `World` is all that surrounds a kernel but the broadcast channel and the log: what the debugger
and the files answer, when the target prints, and when the relay gets to drain. In a world a kernel
may still have many runs, since channel and log may take each message or not.
`Kernel.answerCell_unheard` says that all of them come to the same: but for what the channel lets
through, nothing tells one from the other.

What is `heard` of a run are the turns in which something else is asked than to tell something. The
programs of kernel and relay without their asides have one run in a world (`World.Audible.unique`),
and what is heard of any run is that one (`World.Runs.audible`).
-/

namespace NotebookKernel

/-- The surroundings of a kernel at one moment, apart from the channel and the log. -/
structure Surroundings (σ : Type) where
  /-- Output that was printed and not yet taken. -/
  captured : List Char
  /-- An evaluation is in flight. -/
  busy : Bool
  /-- Everything else: debugger, target, files. -/
  others : σ

/-- How the surroundings go on from one moment to the next. -/
structure World (σ : Type) where
  /-- How many bytes a read of the relay takes at most. -/
  chunk : Nat
  /-- The next to ask is the relay. -/
  relayNext : Surroundings σ → Bool
  /-- What the target prints before the next answer. -/
  prints : Surroundings σ → List Char
  answer : Surroundings σ → (r : Host.Request) → Host.Answer r
  others : Surroundings σ → Host.Request → σ

/-- The text that an exchange takes. -/
def Exchange.taken (exchange : Exchange Host) : List Char :=
  match exchange.effect with
  | .took text => text
  | _ => []

/-- The kernel waits for an evaluation, after a request. -/
def Host.Request.busyAfter : Host.Request → Bool → Bool
  | .setBusy busy, _ => busy
  | _, busy => busy

/-- The turns in which something else is asked than to tell something. -/
def heard (log : List Turn) : List Turn :=
  log.filter fun turn => turn.request.aside.isNone

theorem heard_cons_kept (turn : Turn) {log : List Turn} (kept : turn.request.aside = none) :
    heard (turn :: log) = turn :: heard log :=
  List.filter_cons_of_pos (Option.isNone_iff_eq_none.mpr kept)

theorem heard_cons_aside (turn : Turn) {log : List Turn} (told : turn.request.aside ≠ none) :
    heard (turn :: log) = heard log :=
  List.filter_cons_of_neg fun kept => told (Option.isNone_iff_eq_none.mp kept)

namespace World

variable {σ α : Type} (w : World σ)

/-- The surroundings after a request. -/
def after (s : Surroundings σ) (r : Host.Request) : Surroundings σ where
  captured := (s.captured ++ w.prints s).drop (Exchange.taken ⟨r, w.answer s r⟩).length
  busy := r.busyAfter s.busy
  others := w.others s r

/-- A program of the kernel runs in a world beside the relay, until it is done. The world says who
asks next and what the answer is; only what is told aside is answered in any way, at any time. -/
inductive Runs : Surroundings σ → Relay → Act α → List Turn → Surroundings σ → Relay → α → Prop
  | done (s : Surroundings σ) (c : Relay) (a : α) : Runs s c (.done a) [] s c a
  | own {s t : Surroundings σ} {c d : Relay} {r : Host.Request} {next : Host.Answer r → Act α}
      {log : List Turn} {a : α} :
    r.aside = none → w.relayNext s = false → c.Permits r →
      Runs (w.after s r) (c.after ⟨r, w.answer s r⟩) (next (w.answer s r)) log t d a →
        Runs s c (.ask r next) (.own ⟨r, w.answer s r⟩ :: log) t d a
  | tell {s t : Surroundings σ} {c d : Relay} {r : Host.Request} {next : Host.Answer r → Act α}
      {log : List Turn} {a : α} (answer : Host.Answer r) :
    r.aside ≠ none → Runs s c (next answer) log t d a →
      Runs s c (.ask r next) (.own ⟨r, answer⟩ :: log) t d a
  | relay {s t : Surroundings σ} {c d : Relay} {r r' : Host.Request}
      {rest : Host.Answer r → Act Bool} {next : Host.Answer r' → Act α} {log : List Turn} {a : α} :
    r.aside = none → w.relayNext s = true → c.drain = some (.ask r rest) →
      Runs (w.after s r) { c with drain := some (rest (w.answer s r)) } (.ask r' next) log t d a →
        Runs s c (.ask r' next) (⟨true, ⟨r, w.answer s r⟩⟩ :: log) t d a
  | relayTell {s t : Surroundings σ} {c d : Relay} {r r' : Host.Request}
      {rest : Host.Answer r → Act Bool} {next : Host.Answer r' → Act α} {log : List Turn} {a : α}
      (answer : Host.Answer r) :
    r.aside ≠ none → c.drain = some (.ask r rest) →
      Runs s { c with drain := some (rest answer) } (.ask r' next) log t d a →
        Runs s c (.ask r' next) (⟨true, ⟨r, answer⟩⟩ :: log) t d a
  /-- The relay begins to drain. -/
  | poll {s t : Surroundings σ} {c d : Relay} {r : Host.Request} {next : Host.Answer r → Act α}
      {log : List Turn} {a : α} :
    c.polling = true → c.drain = none →
      Runs s { c with drain := some (Streaming.drain w.chunk) } (.ask r next) log t d a →
        Runs s c (.ask r next) log t d a
  /-- The relay has drained. -/
  | rest {s t : Surroundings σ} {c d : Relay} {r : Host.Request} {next : Host.Answer r → Act α}
      {log : List Turn} {printed : Bool} {a : α} :
    c.drain = some (.done printed) →
      Runs s { c with drain := none } (.ask r next) log t d a →
        Runs s c (.ask r next) log t d a

variable {w}

theorem Relay.permits_aside (c : Relay) {r : Host.Request} (told : r.aside ≠ none)
    (answer : Host.Answer r) : c.Permits r ∧ c.after ⟨r, answer⟩ = c := by
  cases r with
  | broadcast m => exact ⟨trivial, rfl⟩
  | log record => exact ⟨trivial, rfl⟩
  | _ => exact absurd rfl told

/-- What the relay does by itself comes before the next request of the program. -/
theorem Beside.of_moved {c e d : Relay} {r : Host.Request} {next : Host.Answer r → Act α}
    (first : List Turn) {log : List Turn} {a : α}
    (moves : ∀ {rest : List Turn} {f : Relay}, e.Moves rest f → c.Moves (first ++ rest) f)
    (run : Beside e (.ask r next) log d a) : Beside c (.ask r next) (first ++ log) d a := by
  cases run with
  | ask answer later permits rest =>
    rw [← List.append_assoc]
    exact .ask answer (moves later) permits rest

/-- A run in a world is a run beside the relay. -/
theorem Runs.beside {s t : Surroundings σ} {c d : Relay} {p : Act α} {log : List Turn} {a : α}
    (run : w.Runs s c p log t d a) : Beside c p log d a := by
  induction run with
  | done s c a => exact .done c a
  | own _ _ permits _ ih => exact .ask _ (.refl _) permits ih
  | @tell _ _ c _ _ _ _ _ answer told _ ih =>
    obtain ⟨permits, same⟩ := Relay.permits_aside c told answer
    exact .ask answer (.refl c) permits (by rw [same]; exact ih)
  | relay _ _ underWay _ ih => exact Beside.of_moved [_] (.ask _ underWay) ih
  | relayTell answer _ underWay _ ih => exact Beside.of_moved [_] (.ask answer underWay) ih
  | poll polling resting _ ih => exact Beside.of_moved [] (.poll _ polling resting) ih
  | rest ended _ ih => exact Beside.of_moved [] (.rest ended) ih

/-! ## Runs that are found -/

/-- A run with what it ends in. -/
structure Played (w : World σ) (s : Surroundings σ) (c : Relay) (p : Act α) where
  log : List Turn
  left : Surroundings σ
  relay : Relay
  result : α
  runs : w.Runs s c p log left relay result

/-- The answer to a request as a channel gives it; anything but a broadcast is answered as it is. -/
def through (channel : Broadcast → Except Error Unit) :
    (r : Host.Request) → Host.Answer r → Host.Answer r
  | .broadcast m, _ => channel m
  | _, known => known

/-- A run, found step by step: what is told aside is answered by a channel, and a relay that is to
ask next drains in one go. -/
def play (w : World σ) (channel : Broadcast → Except Error Unit) :
    Nat → (s : Surroundings σ) → (c : Relay) → (p : Act α) → Option (w.Played s c p)
  | _, s, c, .done a => some ⟨[], s, c, a, .done s c a⟩
  | 0, _, _, .ask _ _ => none
  | fuel + 1, s, ⟨polling, none⟩, .ask r next =>
    match told : r.aside with
    | some known =>
      (w.play channel fuel s ⟨polling, none⟩ (next (through channel r known))).map fun run =>
        { run with log := _, runs := .tell _ (by simp [told]) run.runs }
    | none =>
    if turn : w.relayNext s = true then
      if polls : polling = true then
        (w.play channel fuel s ⟨polling, some (Streaming.drain w.chunk)⟩ (.ask r next)).map
          fun run => { run with runs := .poll polls rfl run.runs }
      else none
    else
      (w.play channel fuel (w.after s r) (Relay.after ⟨polling, none⟩ ⟨r, w.answer s r⟩)
        (next (w.answer s r))).map fun run =>
          { run with
            log := _
            runs := .own told (eq_false_of_ne_true turn) (by cases r <;> trivial) run.runs }
  | fuel + 1, s, ⟨polling, some (.done _)⟩, .ask r next =>
    (w.play channel fuel s ⟨polling, none⟩ (.ask r next)).map fun run =>
      { run with runs := .rest rfl run.runs }
  | fuel + 1, s, ⟨polling, some (.ask r' rest)⟩, .ask r next =>
    match told : r'.aside with
    | some known =>
      (w.play channel fuel s ⟨polling, some (rest (through channel r' known))⟩
        (.ask r next)).map fun run =>
          { run with log := _, runs := .relayTell _ (by simp [told]) rfl run.runs }
    | none =>
    if turn : w.relayNext s = true then
      (w.play channel fuel (w.after s r') ⟨polling, some (rest (w.answer s r'))⟩
        (.ask r next)).map fun run =>
          { run with log := _, runs := .relay told turn rfl run.runs }
    else none

/-! ## What is heard of a run -/

/-- What the relay asks next, without its asides: a drain that is under way goes on, and after it a
polling relay drains again. -/
def resume (chunk : Nat) (polling : Bool) : Act Bool → Act Bool
  | .ask r next => .ask r next
  | .done _ =>
    if polling then (Streaming.drain chunk).without Host.Request.aside else .done false

/-- What a relay goes on with, without its asides. -/
def voice (chunk : Nat) (c : Relay) : Act Bool :=
  resume chunk c.polling
    (match c.drain with
    | some rest => rest.without Host.Request.aside
    | none => .done false)

/-- What a relay goes on with after an exchange of the kernel. -/
def voiceAfter (chunk : Nat) (voice : Act Bool) : Exchange Host → Act Bool
  | ⟨.startPolling, .ok ()⟩ => resume chunk true voice
  | ⟨.stopPolling, ()⟩ => .done false
  | _ => voice

theorem voice_underWay {chunk : Nat} {c : Relay} {rest : Act Bool}
    (underWay : c.drain = some rest) :
    voice chunk c = resume chunk c.polling (rest.without Host.Request.aside) := by
  rw [voice, underWay]

theorem resume_idem (chunk : Nat) (polling : Bool) (p : Act Bool) :
    resume chunk true (resume chunk polling p) = resume chunk true p := by
  cases p with
  | ask r next => rfl
  | done printed => cases polling <;> rfl

theorem voice_after {chunk : Nat} {c : Relay} {r : Host.Request} (permits : c.Permits r)
    (answer : Host.Answer r) :
    voice chunk (c.after ⟨r, answer⟩) = voiceAfter chunk (voice chunk c) ⟨r, answer⟩ := by
  cases r with
  | startPolling =>
    cases answer with
    | error e => rfl
    | ok _ => exact (resume_idem _ _ _).symm
  | stopPolling =>
    obtain ⟨polling, drain⟩ := c
    obtain rfl : drain = none := permits
    rfl
  | _ => rfl

variable (w)

/-- The run of a program and a relay that tell nothing aside. At the end the relay is gone. -/
inductive Audible : Surroundings σ → Bool → Act Bool → Act α → List Turn → Surroundings σ → α → Prop
  | done (s : Surroundings σ) (a : α) : Audible s false (.done false) (.done a) [] s a
  | own {s t : Surroundings σ} {polling : Bool} {voice : Act Bool} {r : Host.Request}
      {next : Host.Answer r → Act α} {log : List Turn} {a : α} :
    w.relayNext s = false →
      Audible (w.after s r) (Relay.after ⟨polling, none⟩ ⟨r, w.answer s r⟩).polling
        (voiceAfter w.chunk voice ⟨r, w.answer s r⟩) (next (w.answer s r)) log t a →
          Audible s polling voice (.ask r next) (.own ⟨r, w.answer s r⟩ :: log) t a
  | relay {s t : Surroundings σ} {polling : Bool} {p : Act α} {r : Host.Request}
      {rest : Host.Answer r → Act Bool} {log : List Turn} {a : α} :
    w.relayNext s = true →
      Audible (w.after s r) polling (resume w.chunk polling (rest (w.answer s r))) p log t a →
        Audible s polling (.ask r rest) p (⟨true, ⟨r, w.answer s r⟩⟩ :: log) t a

variable {w}

/-- There is one such run. -/
theorem Audible.unique {s t t' : Surroundings σ} {polling : Bool} {voice : Act Bool} {p : Act α}
    {log log' : List Turn} {a a' : α} (one : w.Audible s polling voice p log t a)
    (other : w.Audible s polling voice p log' t' a') : log = log' ∧ t = t' ∧ a = a' := by
  induction one generalizing log' with
  | done s a =>
    cases other with
    | done => exact ⟨rfl, rfl, rfl⟩
  | own turn _ ih =>
    cases other with
    | own _ later =>
      obtain ⟨rfl, rfl, rfl⟩ := ih later
      exact ⟨rfl, rfl, rfl⟩
    | relay relayTurn _ =>
      rw [turn] at relayTurn
      cases relayTurn
  | relay turn _ ih =>
    cases other with
    | own ownTurn _ =>
      rw [turn] at ownTurn
      cases ownTurn
    | relay _ later =>
      obtain ⟨rfl, rfl, rfl⟩ := ih later
      exact ⟨rfl, rfl, rfl⟩

/-- A drain that is under way goes on as if all that it tells arrived. -/
def HeedlessDrain (c : Relay) : Prop :=
  ∀ rest, c.drain = some rest → rest.Heedless

/-- What is heard of a run is the run without asides. -/
theorem Runs.audible {s t : Surroundings σ} {c d : Relay} {p : Act α} {log : List Turn} {a : α}
    (run : w.Runs s c p log t d a) (gone : d = .absent) (heedless : p.Heedless)
    (drain : HeedlessDrain c) :
    w.Audible s c.polling (voice w.chunk c) (p.without Host.Request.aside) (heard log) t a := by
  induction run with
  | done s c a =>
    subst gone
    exact .done s a
  | @own _ _ c _ r _ _ _ kept turn permits _ ih =>
    rw [heard_cons_kept (.own ⟨_, _⟩) kept, Program.without_ask_none kept]
    have later := ih gone (heedless.1 _) fun rest same => drain rest (c.after_drain _ ▸ same)
    rw [voice_after permits, c.after_polling] at later
    exact .own turn later
  | tell answer told _ ih =>
    rw [heard_cons_aside (.own ⟨_, _⟩) told, heedless.without_ask told answer]
    exact ih gone (heedless.1 answer) drain
  | relay kept turn underWay _ ih =>
    rw [heard_cons_kept ⟨true, ⟨_, _⟩⟩ kept]
    have later := ih gone heedless fun rest same =>
      Option.some.inj same ▸ (drain _ underWay).1 _
    rw [voice_underWay underWay, Program.without_ask_none kept]
    exact .relay turn later
  | @relayTell _ _ c _ _ _ _ _ _ _ answer told underWay _ ih =>
    rw [heard_cons_aside ⟨true, ⟨_, _⟩⟩ told]
    have later := ih gone heedless fun rest same =>
      Option.some.inj same ▸ (drain _ underWay).1 answer
    rw [voice_underWay underWay, (drain _ underWay).without_ask told answer]
    exact later
  | @poll _ _ c _ _ _ _ _ polling resting _ ih =>
    have later := ih gone heedless fun rest same =>
      Option.some.inj same ▸ Streaming.drain_heedless w.chunk
    rw [voice, resting, polling]
    rw [voice, polling] at later
    exact later
  | rest ended _ ih =>
    have later := ih gone heedless fun rest same => nomatch same
    rw [voice, ended]
    exact later

end World

/-- In a world all runs of a kernel that answers a cell come to the same, whatever becomes of the
messages that it broadcasts: the reply is the same, everything else that kernel and relay ask is,
with the answers, and so is what the kernel and its surroundings are afterwards. -/
theorem Kernel.answerCell_unheard {σ : Type} {w : World σ} {s t t' : Surroundings σ}
    {k l l' : Kernel} {source : String} {parent : Json} {log log' : List Turn} {d d' : Relay}
    {reply reply' : ExecuteReply}
    (one : w.Runs s .absent ((answerCell source parent).run k) log t d (reply, l))
    (other : w.Runs s .absent ((answerCell source parent).run k) log' t' d' (reply', l')) :
    reply = reply' ∧ heard log = heard log' ∧ l = l' ∧ t = t' := by
  have still : World.HeedlessDrain .absent := fun _ same => nomatch same
  obtain ⟨-, -, -, -, gone, -, -⟩ := answerCell_course one.beside
  obtain ⟨-, -, -, -, gone', -, -⟩ := answerCell_course other.beside
  have heedless := answerCell_heedless k source parent
  obtain ⟨turns, same, ending⟩ :=
    (one.audible gone heedless still).unique (other.audible gone' heedless still)
  obtain ⟨rfl, rfl⟩ := Prod.mk.inj ending
  exact ⟨rfl, turns, rfl, same⟩

/-- A world in which the target prints twice while it works on a cell, and the relay drains between
the two. The others count the requests. -/
def World.chatty : World Nat where
  chunk := 1000
  relayNext s := 11 ≤ s.others ∧ s.others ≤ 15
  prints s := if s.others = 9 ∨ s.others = 16 then ['a'] else []
  answer s
    | .debugger (.evaluate _ _) => .ok (.value ⟨0, s.others⟩)
    | .debugger (.describe _) => .ok ⟨"1", some "Int", none⟩
    | .debugger .unreadOutput => s.captured.length
    | .debugger (.takeOutput _) => .ok (String.ofList s.captured)
    | .debugger (.launch _) | .debugger (.children _) | .debugger (.member _ _)
    | .debugger (.storage _) | .debugger (.memoryAt _ _) | .debugger (.frames _)
    | .debugger .interrupt | .debugger (.complete _ _) | .debugger .terminate
    | .broadcast _ | .reply _ _ | .readText _ | .openForAppend _ => .error .widthNotProbed
    | .debugger .canComplete | .isBusy | .takeGuard => false
    | .startPolling => .ok ()
    | .log _ | .lockTarget | .unlockTarget | .setBusy _ | .stopPolling | .releaseGuard _ => ()
  others s _ := s.others + 1

/-- A cell that asks for completion, prints and has a value, once with a channel that takes all of
this and once with one that takes nothing. -/
theorem Kernel.answerCell_unheard_refused :
    ∃ (log log' : List Turn) (t t' : Surroundings Nat) (d d' : Relay) (reply reply' : ExecuteReply)
      (l l' : Kernel),
      World.chatty.Runs ⟨[], false, 0⟩ .absent
        ((answerCell "%enableCompletion\nx" .null).run default) log t d (reply, l) ∧
      World.chatty.Runs ⟨[], false, 0⟩ .absent
        ((answerCell "%enableCompletion\nx" .null).run default) log' t' d' (reply', l') ∧
      Broadcast.stdoutTexts (published log) =
        [CompletionState.notice default, "a", "a"] ∧
      (results log).length = 1 ∧ published log' = [] ∧
      reply = reply' ∧ heard log = heard log' ∧ l = l' ∧ t = t' := by
  let cell := (answerCell "%enableCompletion\nx" .null).run default
  have taken : (World.chatty.play (fun _ => .ok ()) 100 ⟨[], false, 0⟩ .absent cell).any
      (fun run => Broadcast.stdoutTexts (published run.log) =
        [CompletionState.notice default, "a", "a"] ∧ (results run.log).length = 1) := by
    decide +kernel
  have refused : (World.chatty.play (fun _ => .error .widthNotProbed) 100 ⟨[], false, 0⟩ .absent
      cell).any (fun run => (published run.log).isEmpty) := by
    decide +kernel
  obtain ⟨⟨log, t, d, ⟨reply, l⟩, one⟩, -, sent⟩ := (Option.any_eq_true _ _).mp taken
  obtain ⟨⟨log', t', d', ⟨reply', l'⟩, other⟩, -, unsent⟩ := (Option.any_eq_true _ _).mp refused
  obtain ⟨texts, values⟩ := of_decide_eq_true sent
  exact ⟨log, log', t, t', d, d', reply, reply', l, l', one, other, texts, values,
    List.isEmpty_iff.mp unsent, answerCell_unheard one other⟩

end NotebookKernel
