import NotebookKernel.Proofs.Dap.Arrivals
import NotebookKernel.Proofs.Dap.Courses
import NotebookKernel.Proofs.Dap.Outcomes

/-!
Where an interrupt goes.

The debugger may report the process of the target at any moment, more than once, and as any number.
The connection keeps the last report, cut to the width of a process number
(`Traffic.Reachable.debuggee`), and an interrupt looks at it once. So `Client.Interrupted` lists
what a call comes to by the number that was reported last. `Traffic.Reachable.interrupt_reaches`
says for which reports the signal goes where it should: a number that is cut is another one, and one
that is not positive stands for a group of processes.
-/

namespace NotebookKernel.Dap

/-! ## Reports of the target's process -/

/-- The process that a message reports, as it is in the message. -/
def reported? (message : Json) : Option Int :=
  match Message.ofJson? message with
  | some (.event e) =>
    if e.name = "process" then (e.body.get "systemProcessId").int64? else none
  | _ => none

/-- An event that reports a process. -/
def processEvent (n : Int) : Event :=
  ⟨"process", .obj [("systemProcessId", .int n)]⟩

theorem reported?_processEvent {n : Int} (low : -Int.pow 2 63 ≤ n) (high : n < Int.pow 2 63) :
    reported? (processEvent n).toJson = some n := by
  unfold reported?
  rw [Message.ofJson?_event]
  change (if -Int.pow 2 63 ≤ n ∧ n < Int.pow 2 63 then some n else none) = some n
  rw [if_pos ⟨low, high⟩]

/-- The process that was reported last. -/
def lastReported (history : List Occurrence) : Option Int :=
  history.findSome? fun o =>
    match o with
    | .received message => reported? message
    | _ => none

theorem lastReported_received (message : Json) (history : List Occurrence) :
    lastReported (.received message :: history) =
      (reported? message).or (lastReported history) := by
  unfold lastReported
  rw [List.findSome?_cons]
  dsimp only
  cases reported? message <;> rfl

namespace Connection

variable {c d : Connection}

/-- A process number is kept exactly if it has 32 bits. -/
theorem processNumber_eq_iff {n : Int} : processNumber n = n ↔ -2 ^ 31 ≤ n ∧ n < 2 ^ 31 := by
  have low := @Int.le_bmod n (Nat.pow 2 32) (by decide)
  have high := @Int.bmod_lt n (Nat.pow 2 32) (by decide)
  unfold processNumber
  constructor
  · intro same
    rw [same] at low high
    exact ⟨low, high⟩
  · intro ⟨lower, upper⟩
    exact Int.bmod_eq_of_le lower upper

theorem keepEvent_debuggee (c : Connection) (e : Event) :
    (c.keepEvent e).debuggee = c.debuggee := by
  unfold keepEvent
  split <;> rfl

/-- The reader keeps the process that a message reports, and nothing else changes it. -/
theorem deliver_debuggee (c : Connection) (message : Json) :
    (c.deliver message).1.debuggee = ((reported? message).map processNumber).or c.debuggee := by
  unfold deliver reported?
  cases Message.ofJson? message with
  | none => rfl
  | some parsed =>
    cases parsed with
    | reverseRequest content => rfl
    | response r =>
      simp only [deliverResponse]
      split <;> rfl
    | event e =>
      simp only [deliverEvent]
      by_cases output : e.name = "output"
      · rw [if_pos output, if_neg (by rw [output]; decide)]
        simp only [captureOutput]
        split <;> rfl
      rw [if_neg output]
      by_cases process : e.name = "process"
      · rw [if_pos process, if_pos process]
        cases (e.body.get "systemProcessId").int64? with
        | none => exact keepEvent_debuggee c e
        | some n => exact keepEvent_debuggee _ e
      · rw [if_neg process, if_neg process]
        split <;> exact keepEvent_debuggee c e

theorem fetch?_debuggee {seq : Nat} {response : Option Response}
    (fetched : c.fetch? seq = some (response, d)) : d.debuggee = c.debuggee := by
  unfold fetch? at fetched
  split at fetched
  · cases fetched
    rfl
  · obtain ⟨-, same⟩ := Option.ite_none_left_eq_some.mp fetched
    cases same
    rfl

/-- No request changes it. -/
theorem answer?_debuggee {r : Link.Request} {answer : Link.Answer r}
    (answered : c.answer? r = some (answer, d)) : d.debuggee = c.debuggee := by
  cases r with
  | await seq => exact fetch?_debuggee answered
  | awaitInTime seq =>
    obtain ⟨⟨response, e⟩, fetched, same⟩ := Option.map_eq_some_iff.mp answered
    have kept := fetch?_debuggee fetched
    cases response <;> cases same <;> exact kept
  | awaitEvent name =>
    unfold answer? at answered
    dsimp only at answered
    split at answered
    · cases answered
      rfl
    · obtain ⟨-, same⟩ := Option.ite_none_left_eq_some.mp answered
      cases same
      rfl
  | write | signal | killServer | log => cases answered
  | allocate | expect | forget | listen | unlisten | takeOutput | unreadOutput | debuggee =>
    cases answered
    rfl

end Connection

namespace Traffic

variable {t u : Traffic} {i : Nat}

theorem Step.debuggee {may : Traffic → Debugger.Request → Prop} (step : Step may t u)
    (kept : t.connection.debuggee = (lastReported t.history).map Connection.processNumber) :
    u.connection.debuggee = (lastReported u.history).map Connection.processNumber := by
  cases step with
  | begin | finish | arrive | free | fail | die | «break» => exact kept
  | answer worker answered => exact (Connection.answer?_debuggee answered).trans kept
  | @read ended message unread reading found =>
    change (Connection.deliver _ message).1.debuggee = _
    rw [Connection.deliver_debuggee, lastReported_received, Option.map_or]
    exact congrArg _ kept

/-- The connection has the process that was reported last, cut to the width of process numbers. -/
theorem Reachable.debuggee (reachable : t.Reachable) :
    t.connection.debuggee = (lastReported t.history).map Connection.processNumber := by
  induction reachable with
  | refl => rfl
  | tail _ step ih => exact step.debuggee ih

end Traffic

/-! ## Calls -/

/-- The processes that the signals of a log go to. -/
def signalsOf (log : List (Exchange Link)) : List Int :=
  log.filterMap fun exchange =>
    match exchange.request with
    | .signal process => some process
    | _ => none

namespace Client

/-- What an interrupt comes to, by the process that was reported last: a signal to the number that
is left of it, or one request for the main thread, for whose response nobody waits. -/
inductive Interrupted (c : Client) :
    Option Int → List (Exchange Link) → Except Error Unit → Prop
  | signalled (n : Int) (sent : Except Errno Unit) :
    Interrupted c (some n) [⟨.debuggee, some (Connection.processNumber n)⟩,
      ⟨.signal (Connection.processNumber n), sent⟩] (sent.mapError (.systemCall "kill"))
  | paused {thread : ThreadId} (seq : Nat) : c.mainThread = some thread →
    Interrupted c none [⟨.debuggee, none⟩, ⟨.allocate, seq⟩, ⟨.expect seq, ()⟩,
      ⟨.write ⟨seq, "pause", .object [("threadId", .int thread.number)]⟩, .ok ()⟩] (.ok ())
  | unwritten {thread : ThreadId} (seq : Nat) (e : Error) : c.mainThread = some thread →
    Interrupted c none [⟨.debuggee, none⟩, ⟨.allocate, seq⟩, ⟨.expect seq, ()⟩,
      ⟨.write ⟨seq, "pause", .object [("threadId", .int thread.number)]⟩, .error e⟩,
      ⟨.forget seq, ()⟩] (.error e)
  | unlaunched : c.mainThread = none →
    Interrupted c none [⟨.debuggee, none⟩] (.error (.launch "target is not launched"))

variable {c : Client} {log : List (Exchange Link)} {result : Except Error Unit}

/-- An interrupt looks for the process first, and the rest depends on what it finds. -/
theorem interrupt_gives (run : c.interrupt.Gives log result) :
    ∃ process rest, log = ⟨.debuggee, process⟩ :: rest ∧
      ∀ last : Option Int, process = last.map Connection.processNumber →
        Interrupted c last log result := by
  obtain ⟨process, rest, rfl, looked⟩ := run.of_ask
  refine ⟨process, rest, rfl, fun last same => ?_⟩
  cases last with
  | some n =>
    cases same
    obtain ⟨sent, _, rfl, signalled⟩ := looked.of_ask
    cases sent with
    | ok _ =>
      obtain ⟨rfl, rfl⟩ := signalled.of_done
      exact .signalled n (.ok ())
    | error errno =>
      obtain ⟨rfl, rfl⟩ := signalled.of_done
      exact .signalled n (.error errno)
  | none =>
    cases same
    cases launched : c.mainThread with
    | none =>
      simp only [launchedThread, launched] at looked
      obtain ⟨rfl, rfl⟩ := looked.of_done
      exact .unlaunched launched
    | some thread =>
      simp only [launchedThread, launched] at looked
      change (Program.bind (send _ _) _).Gives _ _ at looked
      obtain ⟨front, back, sent, rfl, sending, ending⟩ := looked.of_bind
      rcases send_gives sending with ⟨seq, ⟨rfl, rfl⟩ | ⟨e, rfl, rfl⟩⟩
      · obtain ⟨rfl, rfl⟩ := ending.of_done
        exact .paused seq launched
      · obtain ⟨rfl, rfl⟩ := ending.of_done
        exact .unwritten seq e launched

/-- The signal goes to the reported process alone, and to no group, exactly if the number is one
that a process can have. -/
theorem Interrupted.signals_iff {n : Int} (interrupted : Interrupted c (some n) log result) :
    signalsOf log = (if 0 < n then [n] else []) ↔ 0 < n ∧ n < 2 ^ 31 := by
  cases interrupted with
  | signalled _ sent =>
    change [Connection.processNumber n] = _ ↔ _
    by_cases positive : 0 < n
    · rw [if_pos positive, List.singleton_inj, Connection.processNumber_eq_iff]
      constructor
      · exact fun fits => ⟨positive, fits.2⟩
      · exact fun fits => ⟨by omega, fits.2⟩
    · rw [if_neg positive]
      exact iff_of_false (List.cons_ne_nil _ _) fun fits => positive fits.1

end Client

namespace Traffic

variable {t : Traffic} {i : Nat} {c d : Client} {before log : List (Exchange Link)}
  {result : Except Error Unit}

/-- Whoever looks for the process finds what is left of the number reported last. -/
theorem Reachable.looked (reachable : t.Reachable) {process : Option Int}
    {earlier : List Occurrence}
    (within : .exchanged i ⟨.debuggee, process⟩ :: earlier <:+ t.history) :
    process = (lastReported earlier).map Connection.processNumber := by
  obtain ⟨u, v, before, step, rfl, happened⟩ := moment reachable within
  cases step with
  | begin | finish | arrive => exact absurd happened.symm (List.cons_ne_self _ _)
  | read | fail | die | «break» => cases happened
  | answer worker answered =>
    cases happened
    cases answered
    exact Reachable.debuggee before
  | free worker free =>
    cases happened
    cases free

/-- A call of the interrupt looks once at what was reported so far. If a process was, the signal
goes to what is left of the last number; that is the process, and nothing else, exactly if the
number is positive and fits. If none was, one pause is sent for the main thread, or there is no
target and the call fails. -/
theorem Reachable.interrupt_reaches (reachable : t.Reachable)
    (run : ((Client.answer .interrupt).run c).Gives log (result, d))
    (last : exchangesOf i t.history = before ++ log) :
    ∃ process earlier, .exchanged i ⟨.debuggee, process⟩ :: earlier <:+ t.history ∧
      exchangesOf i earlier = before ∧
      Client.Interrupted c (lastReported earlier) log result ∧
      ∀ n, lastReported earlier = some n →
        (signalsOf log = (if 0 < n then [n] else []) ↔ 0 < n ∧ n < 2 ^ 31) := by
  obtain ⟨rfl, called⟩ := Client.keep_gives run
  obtain ⟨process, rest, rfl, comes⟩ := Client.interrupt_gives called
  obtain ⟨earlier, within, place⟩ := place_of_exchangesOf last
  have looked := reachable.looked within
  refine ⟨process, earlier, within, place, comes _ looked, fun n reported => ?_⟩
  have interrupted := comes _ looked
  rw [reported] at interrupted
  exact interrupted.signals_iff

/-! ## A report and a call -/

/-- A process is reported, a call of the interrupt comes after it, and this is where its signal
goes. -/
structure Signalled (c : Client) (n process : Int) (t : Traffic) (log : List (Exchange Link)) :
    Prop where
  reachable : t.Reachable
  history : t.history =
    [.exchanged 0 ⟨.signal process, .ok ()⟩, .exchanged 0 ⟨.debuggee, some process⟩,
      .received (processEvent n).toJson]
  run : ((Client.answer .interrupt).run c).Gives log (.ok (), c)
  whole : exchangesOf 0 t.history = [] ++ log
  reported : lastReported t.history = some n
  signals : signalsOf log = [process]

theorem signalled {n : Int} (low : -Int.pow 2 63 ≤ n) (high : n < Int.pow 2 63)
    (faithful : Frame.Faithful (processEvent n).toJson) (c : Client) :
    ∃ t log, Signalled c n (Connection.processNumber n) t log := by
  have reports := reported?_processEvent low high
  let told := initial.told (processEvent n).toJson
  have ⟨arrives, tells⟩ : Step (fun _ _ => True) initial _ ∧ Step _ _ told :=
    tells rfl rfl faithful
  have there : told.Reachable := .tail (.single arrives) tells
  have known : told.connection.debuggee = some (Connection.processNumber n) := by
    change (Connection.deliver _ _).1.debuggee = _
    rw [Connection.deliver_debuggee, reports]
    rfl
  have looks : told.connection.answer? .debuggee =
      some (some (Connection.processNumber n), told.connection) := by
    rw [← known]
    rfl
  have sends : Link.Free (.signal (Connection.processNumber n)) (.ok ()) := trivial
  have run : Reachable _ := there
    |>.tail (.begin (i := 0) .interrupt c rfl trivial)
    |>.tail (.answer (Function.update_self ..) looks)
    |>.tail (.free (Function.update_self ..) sends)
  refine ⟨_, [⟨.debuggee, some (Connection.processNumber n)⟩,
    ⟨.signal (Connection.processNumber n), .ok ()⟩], run, rfl, ?_, rfl, ?_, rfl⟩
  · refine .ask (I := Link) .debuggee _ ?_
    exact .ask (I := Link) (.signal (Connection.processNumber n)) _ (.done _)
  · change lastReported [.received (processEvent n).toJson] = some n
    rw [lastReported_received, reports]
    rfl

/-- A process with an ordinary number is signalled. -/
theorem Reachable.interrupt_reaches_process :
    ∃ t log, Signalled .fresh 4711 4711 t log ∧
      Client.Interrupted .fresh (some 4711) log (.ok ()) ∧
      (signalsOf log = [4711] ↔ (0 : Int) < 4711 ∧ (4711 : Int) < 2 ^ 31) := by
  obtain ⟨t, log, signalled⟩ :=
    signalled (n := 4711) (by decide) (by decide) (by decide +kernel) .fresh
  obtain ⟨process, earlier, within, -, interrupted, signals⟩ :=
    Reachable.interrupt_reaches signalled.reachable signalled.run signalled.whole
  -- the only look for the process comes right after the report
  rw [signalled.history] at within
  have last : earlier = [.received (processEvent 4711).toJson] := by
    rcases List.suffix_cons_iff.mp within with same | within
    · cases same
    rcases List.suffix_cons_iff.mp within with same | within
    · exact (List.cons.inj same).2
    · rcases List.suffix_cons_iff.mp within with same | within
      · cases same
      · cases List.suffix_nil.mp within
  have reported : lastReported earlier = some 4711 := by
    rw [last]
    have whole := signalled.reported
    rw [signalled.history] at whole
    exact whole
  rw [reported] at interrupted
  exact ⟨t, log, signalled, interrupted, signals 4711 reported⟩

/-- A number of more than 32 bits is reported, and the signal goes to the group of the kernel. A
negative one is, and the signal goes to another group. -/
theorem interrupt_misses_process :
    (∃ t log, Signalled .fresh (2 ^ 32) 0 t log) ∧
      ∃ t log, Signalled .fresh (-999999998) (-999999998) t log :=
  ⟨signalled (n := 2 ^ 32) (by decide) (by decide) (by decide +kernel) .fresh,
    signalled (n := -999999998) (by decide) (by decide) (by decide +kernel) .fresh⟩

end Traffic

end NotebookKernel.Dap
