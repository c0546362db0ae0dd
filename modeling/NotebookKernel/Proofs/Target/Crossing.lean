import NotebookKernel.Proofs.Target.Interrupting

/-!
Interrupts that cross the end of an evaluation.

The relay looks at the flag first and asks the target to unwind afterwards, and it holds no lock in
between. Here both are steps of their own, and so are the beginning and the end of the debugger's
work on a call, so an evaluation may end, and the next one begin, after the look and before the
request. `Crossing.Reachable.interrupt_meets_iff` says when the request still meets the evaluation
that the flag was up for: exactly while the debugger is at work on that one. Otherwise it goes to a
target that is idle, or to a later evaluation, and both happen
(`Crossing.Reachable.interrupt_missed`).

Evaluations are numbered as they raise the flag. Under the lock one call is made at a time, so
three counters, of evaluations, of calls begun and of calls answered, tell where they are: `Counted`
is the invariant.
-/

namespace NotebookKernel

/-! ## The relay step by step -/

namespace Interrupts

/-- Where the relay is: between two events, behind a look that found the flag up, or behind a
failure that it reports. -/
inductive Stage where
  | waiting (source : List (Except Error Unit))
  | sending (rest : List (Except Error Unit))
  | reporting (record : Log.Record) (rest : List (Except Error Unit))

namespace Stage

/-- What is left to do. -/
def program : Stage → Act Unit
  | waiting source => serve source
  | sending rest => .ask (.debugger .interrupt) fun
    | .ok () => serve rest
    | .error e => .ask (.log (Log.warn .kernel ("interrupt target: " ++ e.message))) fun _ =>
      serve rest
  | reporting record rest => .ask (.log record) fun _ => serve rest

/-- In one stage alone the target is asked to unwind. -/
theorem sending_of_interrupt {stage : Stage} {next : Except Error Unit → Act Unit}
    (asks : stage.program = .ask (.debugger .interrupt) next) : ∃ rest, stage = sending rest := by
  cases stage with
  | waiting source =>
    cases source with
    | nil => cases asks
    | cons event rest =>
      cases event with
      | ok _ => cases asks
      | error e => cases e <;> cases asks
  | sending rest => exact ⟨rest, rfl⟩
  | reporting record rest => cases asks

/-- Only a look that finds the flag up leads there. -/
theorem later_of_program {stage : Stage} {r : Host.Request} {next : Host.Answer r → Act Unit}
    (asks : stage.program = .ask r next) (answer : Host.Answer r) :
    ∃ later : Stage, next answer = later.program ∧
      ((∃ rest, later = sending rest) →
        (⟨r, answer⟩ : Exchange Host) = ⟨Host.Request.isBusy, true⟩) := by
  cases stage with
  | waiting source =>
    cases source with
    | nil => cases asks
    | cons event rest =>
      cases event with
      | ok _ =>
        cases asks
        cases answer with
        | false => exact ⟨waiting rest, rfl, nofun⟩
        | true =>
          refine ⟨sending rest, ?_, fun _ => rfl⟩
          change Program.ask _ _ = Program.ask _ _
          congr 1
          funext answer
          cases answer <;> rfl
      | error e =>
        cases e with
        | interruptsClosed => cases asks
        | _ =>
          cases asks
          exact ⟨waiting rest, rfl, nofun⟩
  | sending rest =>
    cases asks
    cases answer with
    | ok _ => exact ⟨waiting rest, rfl, nofun⟩
    | error e => exact ⟨reporting _ rest, rfl, nofun⟩
  | reporting record rest =>
    cases asks
    exact ⟨waiting rest, rfl, nofun⟩

end Stage

end Interrupts

/-! ## Evaluations by their numbers -/

/-- A thread whose next request is the call of the debugger, begun or not. -/
def atCall : Option (Act (Except Error Evaluation)) → Bool
  | some (.ask (.debugger (.evaluate _ _)) _) => true
  | _ => false

theorem insideCall_of_atCall {thread : Option (Act (Except Error Evaluation))}
    (at_ : atCall thread = true) : insideCall thread = true := by
  unfold atCall at at_
  split at at_
  · rfl
  · cases at_

/-- Evaluations so far by three counters: those that raised the flag, calls that the debugger has
begun, and calls that it has answered. -/
structure Counted {n : Nat} (calling begun : Fin n → Bool) (raised called answered : Nat) :
    Prop where
  calls : ∀ i, begun i = true → calling i = true
  busy : ∀ i, calling i = true → raised = answered + 1 ∧ called = answered + (begun i).toNat
  idle : (∀ i, calling i = false) → raised = answered ∧ called = answered

namespace Counted

variable {n : Nat} {calling begun : Fin n → Bool} {raised called answered : Nat} {i : Fin n}

theorem raises (counted : Counted calling begun raised called answered)
    (idle : ∀ j, calling j = false) (i : Fin n) :
    Counted (Function.update calling i true) begun (raised + 1) called answered where
  calls j work := by
    have none := idle j
    rw [counted.calls j work] at none
    cases none
  busy j at_ := by
    have counts := counted.idle idle
    have fresh : begun j = false := by
      rw [Bool.eq_false_iff]
      intro work
      have none := idle j
      rw [counted.calls j work] at none
      cases none
    rw [fresh]
    exact ⟨by omega, counts.2⟩
  idle none := by
    have here := none i
    rw [Function.update_self] at here
    cases here

theorem begins (counted : Counted calling begun raised called answered)
    (here : calling i = true) (fresh : begun i = false) (alone : ∀ j ≠ i, calling j = false) :
    Counted calling (Function.update begun i true) raised (called + 1) answered where
  calls j work := by
    by_cases self : j = i
    · rw [self]
      exact here
    · rw [Function.update_of_ne self] at work
      exact counted.calls j work
  busy j at_ := by
    have self : j = i := by
      by_contra other
      rw [alone j other] at at_
      cases at_
    have counts := counted.busy i here
    rw [fresh] at counts
    rw [self, Function.update_self]
    exact ⟨counts.1, congrArg (· + 1) counts.2⟩
  idle none := by
    rw [none i] at here
    cases here

theorem answers (counted : Counted calling begun raised called answered)
    (work : begun i = true) (alone : ∀ j ≠ i, calling j = false) :
    Counted (Function.update calling i false) (Function.update begun i false) raised called
      (answered + 1) := by
  have none : ∀ j, Function.update calling i false j = false := by
    intro j
    by_cases self : j = i
    · rw [self, Function.update_self]
    · rw [Function.update_of_ne self]
      exact alone j self
  have counts := counted.busy i (counted.calls i work)
  rw [work] at counts
  refine ⟨fun j still => ?_, fun j at_ => ?_, fun _ => counts⟩
  · by_cases self : j = i
    · rw [self, Function.update_self] at still
      cases still
    · rw [Function.update_of_ne self] at still
      have other := alone j self
      rw [counted.calls j still] at other
      cases other
  · rw [none j] at at_
    cases at_

/-- The debugger is at work on the evaluation that raised the flag last exactly if that one's call
has begun and is not answered. -/
theorem works_iff (counted : Counted calling begun raised called answered) {k : Nat}
    (past : k ≤ raised) :
    (∃ i, begun i = true) ∧ raised = k ↔ k ≤ called ∧ answered < k := by
  constructor
  · intro ⟨⟨i, work⟩, last⟩
    have counts := counted.busy i (counted.calls i work)
    rw [work] at counts
    have : called = answered + 1 := counts.2
    omega
  · intro ⟨begun_, open_⟩
    by_cases at_ : ∃ i, calling i = true
    · obtain ⟨i, at_⟩ := at_
      have counts := counted.busy i at_
      cases work : begun i with
      | true => exact ⟨⟨i, work⟩, by omega⟩
      | false =>
        rw [work] at counts
        have : called = answered := counts.2
        omega
    · have counts := counted.idle fun i => by
        rw [Bool.eq_false_iff]
        exact fun here => at_ ⟨i, here⟩
      omega

end Counted

/-! ## The relay beside the evaluations -/

/-- What there was when the relay looked at the flag. -/
structure Look (n : Nat) where
  threads : Fin n → Option (Act (Except Error Evaluation))
  /-- How many evaluations had raised the flag. -/
  raised : Nat

/-- Threads that evaluate, and the relay beside them, request by request. -/
structure Crossing (n : Nat) where
  /-- The threads, the lock and the flag. -/
  watch : Watch n
  /-- The debugger is at work on the call of this thread. -/
  begun : Fin n → Bool
  /-- How many evaluations have raised the flag. -/
  raised : Nat
  /-- How many calls the debugger has begun. -/
  called : Nat
  /-- How many calls it has answered. -/
  answered : Nat
  /-- What the relay has left to do. -/
  relay : Act Unit
  /-- The last look of the relay at the flag. -/
  looked : Option (Look n)

namespace Crossing

variable {n : Nat} {c c' : Crossing n} {source : List (Except Error Unit)}

/-- Nobody evaluates, and the relay waits for its source. -/
def initial (n : Nat) (source : List (Except Error Unit)) : Crossing n where
  watch := Watch.initial n []
  begun _ := false
  raised := 0
  called := 0
  answered := 0
  relay := Interrupts.serve source
  looked := none

/-- The debugger is called. -/
def isCall : Host.Request → Bool
  | .debugger (.evaluate _ _) => true
  | _ => false

/-- The flag is raised. -/
def isRaise : Host.Request → Bool
  | .setBusy busy => busy
  | _ => false

/-- What can happen next. A call of the debugger is two steps, its beginning and its end; a look of
the relay and what it asks the target for are one step each. -/
inductive Step (c : Crossing n) : Crossing n → Prop
  | begins (i : Fin n) (s : Session) (code : String) : c.watch.threads i = none →
    Step c { c with
      watch := { c.watch with
        threads := Function.update c.watch.threads i (some (s.evaluate code).run) } }
  | calls (i : Fin n) : atCall (c.watch.threads i) = true → c.begun i = false →
    Step c { c with begun := Function.update c.begun i true, called := c.called + 1 }
  | answers (i : Fin n) {code : String} {options : RunOptions}
      {next : Except Error Evaluation → Act (Except Error Evaluation)}
      (result : Except Error Evaluation) :
    c.watch.threads i = some (.ask (.debugger (.evaluate code options)) next) →
    c.begun i = true →
    Step c { c with
      watch := c.watch.after i (.debugger (.evaluate code options)) (next result)
      begun := Function.update c.begun i false
      answered := c.answered + 1 }
  | exchanges (i : Fin n) {r : Host.Request} {next : Host.Answer r → Act (Except Error Evaluation)}
      (answer : Host.Answer r) :
    c.watch.threads i = some (.ask r next) → isCall r = false → c.watch.Permits r →
    Step c { c with
      watch := c.watch.after i r (next answer)
      raised := c.raised + (isRaise r).toNat }
  | returns (i : Fin n) (result : Except Error Evaluation) :
    c.watch.threads i = some (.done result) →
    Step c { c with
      watch := { c.watch with threads := Function.update c.watch.threads i none } }
  | relays {r : Host.Request} {next : Host.Answer r → Act Unit} (answer : Host.Answer r) :
    c.relay = .ask r next →
    (∀ busy, (⟨r, answer⟩ : Exchange Host) = ⟨Host.Request.isBusy, busy⟩ → busy = c.watch.busy) →
    Step c { c with
      relay := next answer
      looked :=
        match r with
        | .isBusy => some ⟨c.watch.threads, c.raised⟩
        | _ => c.looked }

/-- It can come to this with what a source gives. -/
inductive Reachable (source : List (Except Error Unit)) : Crossing n → Prop
  | start : Reachable source (initial n source)
  | step {c c' : Crossing n} : Reachable source c → Step c c' → Reachable source c'

/-- The relay is about to ask the target to unwind. -/
def Sends (c : Crossing n) : Prop :=
  ∃ next, c.relay = .ask (.debugger .interrupt) next

/-- The debugger is at work, and no evaluation has raised the flag since the look: it is at work on
the one that the flag was up for. -/
def Meets (c : Crossing n) (look : Look n) : Prop :=
  (∃ i, c.begun i = true) ∧ c.raised = look.raised

/-! ## The invariant -/

/-- The calls that threads are at. -/
def calling (c : Crossing n) : Fin n → Bool :=
  fun i => atCall (c.watch.threads i)

/-- The invariant: the lock and the flag are kept, the counters tell where the evaluations are, and
before the relay asks the target to unwind it has seen the flag up. -/
structure Kept (c : Crossing n) : Prop where
  watch : c.watch.Kept
  counted : Counted c.calling c.begun c.raised c.called c.answered
  relay : ∃ stage : Interrupts.Stage, c.relay = stage.program
  looked : c.Sends → ∃ look, c.looked = some look ∧ (∃ i, insideCall (look.threads i) = true) ∧
    look.raised ≤ c.raised

theorem kept_initial : (initial n source).Kept where
  watch := Watch.kept_initial
  counted := ⟨nofun, nofun, fun _ => ⟨rfl, rfl⟩⟩
  relay := ⟨.waiting source, rfl⟩
  looked := by
    intro ⟨next, asks⟩
    obtain ⟨rest, same⟩ := @Interrupts.Stage.sending_of_interrupt (.waiting source) next asks
    cases same

theorem calling_update {threads : Fin n → Option (Act (Except Error Evaluation))} (i : Fin n)
    (thread : Option (Act (Except Error Evaluation))) :
    (fun j => atCall (Function.update threads i thread j)) =
      Function.update (fun j => atCall (threads j)) i (atCall thread) := by
  funext j
  by_cases self : j = i
  · rw [self, Function.update_self, Function.update_self]
  · rw [Function.update_of_ne self, Function.update_of_ne self]

/-- A thread that is at no call before and after its move leaves the counters right. -/
theorem Kept.counted_of_quiet (kept : c.Kept) {i : Fin n}
    {thread : Option (Act (Except Error Evaluation))} (before : atCall (c.watch.threads i) = false)
    (after : atCall thread = false) :
    Counted (fun j => atCall (Function.update c.watch.threads i thread j)) c.begun c.raised c.called
      c.answered := by
  have same : Function.update c.calling i false = c.calling := by
    rw [← before]
    exact Function.update_eq_self i c.calling
  rw [calling_update, after]
  exact same.symm ▸ kept.counted

/-- Beside a thread that has the lock no other is at a call. -/
theorem Kept.alone (kept : c.Kept) {i : Fin n} (holds : holdsLock (c.watch.threads i) = true) :
    ∀ j ≠ i, c.calling j = false := by
  intro j other
  have outside := kept.watch.alone holds other
  rw [Bool.eq_false_iff]
  intro at_
  rw [insideCall_of_atCall at_] at outside
  cases outside

/-- The evaluations move on while the relay stays where it is. -/
theorem Kept.moves (kept : c.Kept) {watch : Watch n} {begun : Fin n → Bool}
    {raised called answered : Nat} (watched : watch.Kept)
    (counted : Counted (fun i => atCall (watch.threads i)) begun raised called answered)
    (more : c.raised ≤ raised) :
    Kept { c with watch, begun, raised, called, answered } where
  watch := watched
  counted := counted
  relay := kept.relay
  looked := by
    intro sends
    obtain ⟨look, last, inside, past⟩ := kept.looked sends
    exact ⟨look, last, inside, Nat.le_trans past more⟩

theorem Kept.exchanges (kept : c.Kept) {i : Fin n} {r : Host.Request}
    {next : Host.Answer r → Act (Except Error Evaluation)} (answer : Host.Answer r)
    (thread : c.watch.threads i = some (.ask r next)) (other : isCall r = false)
    (permits : c.watch.Permits r) :
    Kept { c with
      watch := c.watch.after i r (next answer)
      raised := c.raised + (isRaise r).toNat } := by
  have watched := kept.watch.step (.exchanges i answer thread permits)
  obtain ⟨stage, same⟩ := kept.watch.stages i _ thread
  obtain ⟨later, goes, rest⟩ := EvaluationStage.goes_of_program same.symm answer
  rw [same] at thread
  rw [rest] at watched ⊢
  cases goes with
  | locks s code | unlocks result =>
    have before : atCall (c.watch.threads i) = false := by rw [thread]; rfl
    exact kept.moves watched (kept.counted_of_quiet before rfl) (Nat.le_refl _)
  | lowers result =>
    have before : atCall (c.watch.threads i) = false := by rw [thread]; rfl
    exact kept.moves watched (kept.counted_of_quiet before rfl) (Nat.le_refl _)
  | raises s code =>
    have holds : holdsLock (c.watch.threads i) = true := by rw [thread]; rfl
    have idle : ∀ j, c.calling j = false := by
      intro j
      by_cases self : j = i
      · rw [self, calling, thread]
        rfl
      · exact kept.alone holds j self
    refine kept.moves watched ?_ (Nat.le_succ _)
    have counted := kept.counted.raises idle i
    dsimp only [Watch.after]
    rw [calling_update]
    exact counted
  | answers => cases other

theorem Kept.step (kept : c.Kept) (step : Step c c') : c'.Kept := by
  cases step with
  | begins i s code idle =>
    have before : atCall (c.watch.threads i) = false := by rw [idle]; rfl
    exact kept.moves (kept.watch.step (.begins i s code idle)) (kept.counted_of_quiet before rfl)
      (Nat.le_refl _)
  | returns i result thread =>
    have before : atCall (c.watch.threads i) = false := by rw [thread]; rfl
    exact kept.moves (kept.watch.step (.returns i result thread))
      (kept.counted_of_quiet before rfl) (Nat.le_refl _)
  | exchanges i answer thread other permits => exact kept.exchanges answer thread other permits
  | calls i here fresh =>
    have holds := holdsLock_of_insideCall (insideCall_of_atCall here)
    exact kept.moves kept.watch (kept.counted.begins here fresh (kept.alone holds))
      (Nat.le_refl _)
  | @answers i code options next result thread work =>
    have watched := kept.watch.step (.exchanges i result thread trivial)
    have holds : holdsLock (c.watch.threads i) = true := by rw [thread]; rfl
    have counted := kept.counted.answers work (kept.alone holds)
    obtain ⟨stage, same⟩ := kept.watch.stages i _ thread
    obtain ⟨later, goes, rest⟩ := EvaluationStage.goes_of_program same.symm result
    rw [rest] at watched ⊢
    cases goes
    refine kept.moves watched ?_ (Nat.le_refl _)
    dsimp only [Watch.after]
    rw [calling_update]
    exact counted
  | @relays r next answer asks flag =>
    obtain ⟨stage, same⟩ := kept.relay
    obtain ⟨later, onward, sent⟩ := Interrupts.Stage.later_of_program (same ▸ asks) answer
    refine ⟨kept.watch, kept.counted, ⟨later, onward⟩, fun ⟨next', asks'⟩ => ?_⟩
    have look := sent (Interrupts.Stage.sending_of_interrupt (onward ▸ asks'))
    cases look
    have up : c.watch.busy = true := (flag true rfl).symm
    exact ⟨_, rfl, kept.watch.flag.mp up, Nat.le_refl _⟩

theorem Reachable.kept (run : c.Reachable source) : c.Kept := by
  induction run with
  | start => exact kept_initial
  | step _ step ih => exact ih.step step

/-- The relay asks the target to unwind only behind a look that fell inside an evaluation. The
request meets that evaluation exactly if the debugger has begun on it and not answered it yet, so
not if the answer comes between the look and the request. If the request misses it, the target is
idle, or at work on a later evaluation. -/
theorem Reachable.interrupt_meets_iff (run : c.Reachable source) (sends : c.Sends) :
    ∃ look, c.looked = some look ∧ (∃ i, insideCall (look.threads i) = true) ∧
      (c.Meets look ↔ look.raised ≤ c.called ∧ c.answered < look.raised) ∧
      (¬ c.Meets look ↔ (∀ i, c.begun i = false) ∨
        (∃ i, c.begun i = true) ∧ look.raised < c.raised) := by
  have kept := run.kept
  obtain ⟨look, last, inside, past⟩ := kept.looked sends
  refine ⟨look, last, inside, kept.counted.works_iff past, ?_⟩
  unfold Meets
  by_cases work : ∃ i, c.begun i = true
  · have some_ : ¬ ∀ i, c.begun i = false := by
      intro none
      obtain ⟨i, work⟩ := work
      rw [none i] at work
      cases work
    have other : c.raised ≠ look.raised ↔ look.raised < c.raised := by omega
    simp only [work, some_, true_and, false_or]
    exact other
  · have none : ∀ i, c.begun i = false := by
      intro i
      rw [Bool.eq_false_iff]
      exact fun here => work ⟨i, here⟩
    exact iff_of_true (fun meets => work meets.1) (.inl none)

/-! ## One thread -/

section OneThread

variable {k : Nat} {relay : Act Unit} {looked : Option (Look 1)}

/-- One thread between two evaluations, of which there were some. -/
def between (k : Nat) (relay : Act Unit) (looked : Option (Look 1)) : Crossing 1 where
  watch := Watch.initial 1 []
  begun _ := false
  raised := k
  called := k
  answered := k
  relay := relay
  looked := looked

/-- The thread in its next evaluation, with the debugger at work. -/
def within (k : Nat) (relay : Act Unit) (looked : Option (Look 1)) : Crossing 1 where
  watch := { Watch.initial 1 [] with
    threads := fun _ => some (EvaluationStage.calling default "x").program
    holder := some 0
    busy := true }
  begun _ := true
  raised := k + 1
  called := k + 1
  answered := k
  relay := relay
  looked := looked

theorem update_fin_one {α : Type} (f : Fin 1 → α) (a : α) : Function.update f 0 a = fun _ => a := by
  funext i
  rw [Subsingleton.elim i 0, Function.update_self]

theorem Reachable.enters (run : (between k relay looked).Reachable source) :
    (within k relay looked).Reachable source := by
  have waiting := run.step (.begins 0 default "x" rfl)
  simp only [update_fin_one] at waiting
  have locked := waiting.step (.exchanges 0 (r := .lockTarget) () rfl rfl rfl)
  simp only [Watch.after, update_fin_one] at locked
  have raised := locked.step (.exchanges 0 (r := .setBusy true) () rfl rfl trivial)
  simp only [Watch.after, update_fin_one] at raised
  have called := raised.step (.calls 0 rfl rfl)
  simp only [update_fin_one] at called
  exact called

theorem Reachable.leaves (run : (within k relay looked).Reachable source) :
    (between (k + 1) relay looked).Reachable source := by
  have answered := run.step (.answers 0 (Except.error .disconnected) rfl rfl)
  simp only [Watch.after, update_fin_one] at answered
  have lowered := answered.step (.exchanges 0 (r := .setBusy false) () rfl rfl trivial)
  simp only [Watch.after, update_fin_one] at lowered
  have unlocked := lowered.step (.exchanges 0 (r := .unlockTarget) () rfl rfl trivial)
  simp only [Watch.after, update_fin_one] at unlocked
  have returned := unlocked.step (.returns 0 (Except.error .disconnected) rfl)
  simp only [update_fin_one] at returned
  exact returned

/-- The relay looks at the flag during the evaluation. -/
theorem Reachable.looks {rest : List (Except Error Unit)}
    (run : (within k (Interrupts.serve (.ok () :: rest)) looked).Reachable source) :
    ∃ look relay, look.raised = k + 1 ∧ (∀ watch begun raised called answered,
      Sends ⟨watch, begun, raised, called, answered, relay, some look⟩) ∧
      (within k relay (some look)).Reachable source := by
  have looked := run.step (.relays (r := .isBusy) true rfl fun _ same => by
    cases same
    rfl)
  exact ⟨_, _, rfl, fun _ _ _ _ _ => ⟨_, rfl⟩, looked⟩

end OneThread

/-- A request during a call, sent while the debugger is still at work on it. -/
theorem Reachable.interrupt_meets_called :
    ∃ c : Crossing 1, c.Reachable [.ok ()] ∧ c.Sends ∧
      ∃ look, c.looked = some look ∧ c.Meets look := by
  have begun : (initial 1 [.ok ()]).Reachable [.ok ()] := .start
  obtain ⟨look, relay, past, sends, run⟩ := (Reachable.enters (k := 0) begun).looks
  obtain ⟨_, last, -, meets, -⟩ := run.interrupt_meets_iff (sends ..)
  cases last
  refine ⟨_, run, sends .., look, rfl, meets.mpr ?_⟩
  rw [past]
  exact ⟨Nat.le_refl 1, Nat.zero_lt_one⟩

/-- A look during a call, and the request behind the answer. In one state that the relay may be in
then, the target is idle: nobody evaluates, and the flag is down. In another one the debugger is at
work on the next evaluation. -/
theorem Reachable.interrupt_missed :
    ∃ idle later : Crossing 1,
      (idle.Reachable [.ok ()] ∧ idle.Sends ∧ (∀ i, idle.begun i = false) ∧
        (∀ i, idle.watch.threads i = none) ∧ idle.watch.busy = false ∧
        ∃ look, idle.looked = some look ∧ ¬ idle.Meets look) ∧
      (later.Reachable [.ok ()] ∧ later.Sends ∧ (∃ i, later.begun i = true) ∧
        ∃ look, later.looked = some look ∧ look.raised < later.raised ∧ ¬ later.Meets look) := by
  have begun : (initial 1 [.ok ()]).Reachable [.ok ()] := .start
  obtain ⟨look, relay, past, sends, run⟩ := (Reachable.enters (k := 0) begun).looks
  refine ⟨_, _, ⟨run.leaves, sends .., fun _ => rfl, fun _ => rfl, rfl, look, rfl, ?_⟩,
    run.leaves.enters, sends .., ⟨0, rfl⟩, look, rfl, ?_, ?_⟩
  · intro meets
    obtain ⟨i, work⟩ := meets.1
    cases work
  · rw [past]
    exact Nat.one_lt_two
  · intro meets
    have last := meets.2
    rw [past] at last
    cases last

end Crossing

end NotebookKernel
