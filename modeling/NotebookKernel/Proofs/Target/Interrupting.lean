import Mathlib.Logic.Function.Basic
import NotebookKernel.Interrupts
import NotebookKernel.Proofs.Program.Progress

/-!
Interrupts reach the target while it evaluates.

Any number of threads evaluate code, each going through its exchanges at its own pace, and the relay
handles what a source gives, one thing at a time, between any two of those exchanges. The flag is up
while the call of the debugger is under way, and the thread that raised it lowers it by the very next
exchange after the answer. The lock keeps a second evaluation from lowering the flag of the first:
`Watch.Kept` is the invariant. What the relay has handled is a beginning of what the source gives,
and each request among it called the debugger if it came during an evaluation, and only then
(`Watch.Reachable.interrupts_counted`).
-/

namespace NotebookKernel

/-! ## An evaluation step by step -/

/-- Where an evaluation is: before the lock, under the lock, and behind it. -/
inductive EvaluationStage where
  | waiting (s : Session) (code : String)
  | entering (s : Session) (code : String)
  /-- The debugger is called. -/
  | calling (s : Session) (code : String)
  /-- The debugger has answered. -/
  | leaving (result : Except Error Evaluation)
  | unlocking (result : Except Error Evaluation)
  | finished (result : Except Error Evaluation)

namespace EvaluationStage

/-- What is left to do. -/
def program : EvaluationStage → Act (Except Error Evaluation)
  | waiting s code => (s.evaluate code).run
  | entering s code => .ask (.setBusy true) fun _ => .ask (.debugger (.evaluate code s.options))
    fun result => .ask (.setBusy false) fun _ => .ask .unlockTarget fun _ => .done result
  | calling s code => .ask (.debugger (.evaluate code s.options)) fun result =>
    .ask (.setBusy false) fun _ => .ask .unlockTarget fun _ => .done result
  | leaving result => .ask (.setBusy false) fun _ => .ask .unlockTarget fun _ => .done result
  | unlocking result => .ask .unlockTarget fun _ => .done result
  | finished result => .done result

/-- An exchange leads from one stage to the next. -/
inductive Goes : EvaluationStage → Host.Request → EvaluationStage → Prop
  | locks (s : Session) (code : String) : Goes (waiting s code) .lockTarget (entering s code)
  | raises (s : Session) (code : String) : Goes (entering s code) (.setBusy true) (calling s code)
  | answers (s : Session) (code : String) (result : Except Error Evaluation) :
    Goes (calling s code) (.debugger (.evaluate code s.options)) (leaving result)
  | lowers (result : Except Error Evaluation) :
    Goes (leaving result) (.setBusy false) (unlocking result)
  | unlocks (result : Except Error Evaluation) :
    Goes (unlocking result) .unlockTarget (finished result)

theorem goes_of_program {stage : EvaluationStage} {r : Host.Request}
    {next : Host.Answer r → Act (Except Error Evaluation)} (asks : stage.program = .ask r next)
    (answer : Host.Answer r) : ∃ later, Goes stage r later ∧ next answer = later.program := by
  cases stage with
  | waiting s code =>
    cases asks
    exact ⟨_, .locks s code, rfl⟩
  | entering s code =>
    cases asks
    exact ⟨_, .raises s code, rfl⟩
  | calling s code =>
    cases asks
    exact ⟨_, .answers s code answer, rfl⟩
  | leaving result =>
    cases asks
    exact ⟨_, .lowers result, rfl⟩
  | unlocking result =>
    cases asks
    exact ⟨_, .unlocks result, rfl⟩
  | finished result => cases asks

end EvaluationStage

/-- A thread that has the debugger evaluate: the call is under way, or it is answered and the thread
is about to say so. -/
def insideCall : Option (Act (Except Error Evaluation)) → Bool
  | some (.ask (.debugger (.evaluate _ _)) _) => true
  | some (.ask (.setBusy false) _) => true
  | _ => false

/-- A thread that has the lock. -/
def holdsLock : Option (Act (Except Error Evaluation)) → Bool
  | some (.ask (.debugger (.evaluate _ _)) _) => true
  | some (.ask (.setBusy _) _) => true
  | some (.ask .unlockTarget _) => true
  | _ => false

theorem holdsLock_of_insideCall {thread : Option (Act (Except Error Evaluation))}
    (inside : insideCall thread = true) : holdsLock thread = true := by
  unfold insideCall at inside
  split at inside
  · rfl
  · rfl
  · cases inside

/-! ## The relay, one event at a time -/

/-- The source has come to its end. -/
def closed : Except Error Unit :=
  .error .interruptsClosed

/-- It asks the target to unwind. -/
def Host.Request.isInterrupt : Host.Request → Bool
  | .debugger .interrupt => true
  | _ => false

/-- How often the target was asked to unwind. -/
def interrupts (log : List (Exchange Host)) : Nat :=
  log.countP fun exchange => exchange.request.isInterrupt

namespace Interrupts

variable {event : Except Error Unit} {log : List (Exchange Host)} {goesOn : Bool}

/-- Only the end of the source ends the relay. A request looks at the flag and asks the target to
unwind if it is up; nothing else does. -/
theorem forward_gives (run : (forward event).Gives log goesOn) :
    (goesOn = false ↔ event = closed) ∧
      match event with
      | .ok () =>
        ∃ busy, (⟨.isBusy, busy⟩ : Exchange Host) ∈ log ∧ interrupts log = busy.toNat
      | .error _ => interrupts log = 0 := by
  cases event with
  | ok _ =>
    obtain ⟨busy, _, rfl, asked⟩ := run.of_ask
    cases busy with
    | false =>
      obtain ⟨rfl, rfl⟩ := asked.of_done
      exact ⟨by simp [closed], false, List.mem_cons_self, rfl⟩
    | true =>
      obtain ⟨answer, _, rfl, interrupted⟩ := asked.of_ask
      cases answer with
      | ok _ =>
        obtain ⟨rfl, rfl⟩ := interrupted.of_done
        exact ⟨by simp [closed], true, List.mem_cons_self, rfl⟩
      | error e =>
        obtain ⟨_, _, rfl, warned⟩ := interrupted.of_ask
        obtain ⟨rfl, rfl⟩ := warned.of_done
        exact ⟨by simp [closed], true, List.mem_cons_self, rfl⟩
  | error e =>
    by_cases last : e = .interruptsClosed
    · subst last
      obtain ⟨rfl, rfl⟩ := run.of_done
      exact ⟨by simp [closed], rfl⟩
    · unfold forward at run
      split at run
      · contradiction
      · exact absurd (Except.error.inj ‹_›) last
      · obtain ⟨_, _, rfl, told⟩ := run.of_ask
        obtain ⟨rfl, rfl⟩ := told.of_done
        exact ⟨by simp [closed, last], rfl⟩

/-- Whatever comes, and whatever the target says to it, the relay can handle it. -/
theorem forward_possible (event : Except Error Unit) (busy : Bool) (answer : Except Error Unit) :
    ∃ log goesOn, (forward event).Gives log goesOn ∧
      (∀ b, (⟨.isBusy, b⟩ : Exchange Host) ∈ log → b = busy) ∧
      ∀ a, (⟨.debugger .interrupt, a⟩ : Exchange Host) ∈ log → a = answer := by
  cases event with
  | ok _ =>
    cases busy with
    | false =>
      exact ⟨[⟨Host.Request.isBusy, false⟩], true, .ask _ _ (.done _), by simp, by simp⟩
    | true =>
      cases answer with
      | ok done =>
        exact ⟨[⟨Host.Request.isBusy, true⟩, ⟨Host.Request.debugger .interrupt, Except.ok done⟩],
          true, .ask _ _ (.ask _ _ (.done _)), by simp, by simp⟩
      | error e =>
        exact ⟨[⟨Host.Request.isBusy, true⟩, ⟨Host.Request.debugger .interrupt, Except.error e⟩,
          ⟨Host.Request.log (Log.warn .kernel ("interrupt target: " ++ e.message)), ()⟩], true,
          .ask _ _ (.ask _ _ (.ask _ _ (.done _))), by simp, by simp⟩
  | error e =>
    by_cases last : e = .interruptsClosed
    · subst last
      exact ⟨[], false, .done _, by simp, by simp⟩
    · refine ⟨[⟨Host.Request.log (Log.error .relay ("wait for interrupt: " ++ e.message)), ()⟩],
        true, ?_, by simp, by simp⟩
      unfold forward
      split
      · contradiction
      · exact absurd (Except.error.inj ‹_›) last
      · cases ‹Except.error e = _›
        exact .ask _ _ (.done _)

end Interrupts

/-! ## Threads and the relay -/

/-- An event that the relay has handled, what it asked for that, and where the evaluations were. -/
structure Handling (n : Nat) where
  event : Except Error Unit
  log : List (Exchange Host)
  threads : Fin n → Option (Act (Except Error Evaluation))

namespace Handling

variable {n : Nat} (h : Handling n)

/-- It was a request. -/
def isRequest : Bool :=
  match h.event with
  | .ok () => true
  | .error _ => false

/-- It fell inside an evaluation. -/
def inside : Bool :=
  decide (∃ i, insideCall (h.threads i) = true)

end Handling

/-- Threads that evaluate, and the relay beside them. -/
structure Watch (n : Nat) where
  threads : Fin n → Option (Act (Except Error Evaluation))
  holder : Option (Fin n)
  busy : Bool
  /-- The relay is there. -/
  relay : Bool
  /-- What the source will give. -/
  left : List (Except Error Unit)
  /-- What the relay has handled, the first event first. -/
  handled : List (Handling n)

namespace Watch

variable {n : Nat} {w w' : Watch n} {source : List (Except Error Unit)}

/-- Nobody evaluates, and the relay waits for its source. -/
def initial (n : Nat) (source : List (Except Error Unit)) : Watch n where
  threads _ := none
  holder := none
  busy := false
  relay := true
  left := source
  handled := []

/-- The lock is taken when it is free. -/
def Permits (w : Watch n) : Host.Request → Prop
  | .lockTarget => w.holder = none
  | _ => True

/-- After an exchange of a thread. -/
def after (w : Watch n) (i : Fin n) (r : Host.Request) (rest : Act (Except Error Evaluation)) :
    Watch n :=
  { w with
    threads := Function.update w.threads i (some rest)
    holder :=
      match r with
      | .lockTarget => some i
      | .unlockTarget => none
      | _ => w.holder
    busy :=
      match r with
      | .setBusy busy => busy
      | _ => w.busy }

/-- After the relay has handled an event, with what the source will give then. -/
def handle (w : Watch n) (event : Except Error Unit) (rest : List (Except Error Unit))
    (log : List (Exchange Host)) (goesOn : Bool) : Watch n :=
  { w with
    relay := goesOn
    left := rest
    handled := w.handled ++ [⟨event, log, w.threads⟩] }

/-- What can happen next. -/
inductive Step (w : Watch n) : Watch n → Prop
  | begins (i : Fin n) (s : Session) (code : String) : w.threads i = none →
    Step w { w with threads := Function.update w.threads i (some (s.evaluate code).run) }
  | exchanges (i : Fin n) {r : Host.Request} {next : Host.Answer r → Act (Except Error Evaluation)}
      (answer : Host.Answer r) :
    w.threads i = some (.ask r next) → w.Permits r → Step w (w.after i r (next answer))
  | returns (i : Fin n) (result : Except Error Evaluation) : w.threads i = some (.done result) →
    Step w { w with threads := Function.update w.threads i none }
  | handles {event : Except Error Unit} {rest : List (Except Error Unit)}
      {log : List (Exchange Host)} {goesOn : Bool} :
    w.relay = true → w.left = event :: rest → (Interrupts.forward event).Gives log goesOn →
    (∀ busy, (⟨.isBusy, busy⟩ : Exchange Host) ∈ log → busy = w.busy) →
    Step w (w.handle event rest log goesOn)

/-- It can come to this with what a source gives. -/
inductive Reachable (source : List (Except Error Unit)) : Watch n → Prop
  | start : Reachable source (initial n source)
  | step {w w' : Watch n} : Reachable source w → Step w w' → Reachable source w'

/-! ## The flag -/

/-- The invariant of the lock and the flag. -/
structure Kept (w : Watch n) : Prop where
  stages : ∀ i rest, w.threads i = some rest → ∃ stage : EvaluationStage, rest = stage.program
  lock : ∀ i, holdsLock (w.threads i) = true ↔ w.holder = some i
  flag : w.busy = true ↔ ∃ i, insideCall (w.threads i) = true

theorem kept_initial : (initial n source).Kept where
  stages _ _ same := nomatch same
  lock _ := iff_of_false (fun holds => nomatch holds) (fun same => nomatch same)
  flag := iff_of_false (fun up => nomatch up) (fun ⟨_, inside⟩ => nomatch inside)

/-- While a thread has the lock, no other is inside a call. -/
theorem Kept.alone (kept : w.Kept) {i j : Fin n} (holds : holdsLock (w.threads i) = true)
    (other : j ≠ i) : insideCall (w.threads j) = false := by
  rw [Bool.eq_false_iff]
  intro inside
  have both := (kept.lock j).mp (holdsLock_of_insideCall inside)
  rw [(kept.lock i).mp holds] at both
  exact other (Option.some.inj both).symm

/-- One thread moves, and with it the lock and the flag. -/
theorem Kept.moves (kept : w.Kept) {i : Fin n}
    {thread : Option (Act (Except Error Evaluation))} {holder : Option (Fin n)} {busy : Bool}
    (stage : ∀ rest, thread = some rest → ∃ stage : EvaluationStage, rest = stage.program)
    (lock : holdsLock thread = true ↔ holder = some i)
    (others : ∀ j ≠ i, w.holder = some j ↔ holder = some j)
    (flag : busy = true ↔ insideCall thread = true ∨ ∃ j ≠ i, insideCall (w.threads j) = true) :
    Kept { w with threads := Function.update w.threads i thread, holder := holder, busy := busy }
    where
  stages j rest same := by
    dsimp only at same
    by_cases self : j = i
    · subst self
      rw [Function.update_self] at same
      exact stage rest same
    · rw [Function.update_of_ne self] at same
      exact kept.stages j rest same
  lock j := by
    dsimp only
    by_cases self : j = i
    · subst self
      rw [Function.update_self]
      exact lock
    · rw [Function.update_of_ne self, kept.lock j]
      exact others j self
  flag := by
    rw [flag]
    constructor
    · rintro (inside | ⟨j, other, inside⟩)
      · refine ⟨i, ?_⟩
        dsimp only
        rwa [Function.update_self]
      · refine ⟨j, ?_⟩
        dsimp only
        rwa [Function.update_of_ne other]
    · rintro ⟨j, inside⟩
      dsimp only at inside
      by_cases self : j = i
      · subst self
        rw [Function.update_self] at inside
        exact .inl inside
      · rw [Function.update_of_ne self] at inside
        exact .inr ⟨j, self, inside⟩

/-- A thread outside of any call does not count for the flag. -/
theorem Kept.flag_of_outside (kept : w.Kept) {i : Fin n}
    (outside : insideCall (w.threads i) = false) :
    w.busy = true ↔ ∃ j ≠ i, insideCall (w.threads j) = true := by
  rw [kept.flag]
  constructor
  · rintro ⟨j, inside⟩
    refine ⟨j, ?_, inside⟩
    rintro rfl
    rw [outside] at inside
    cases inside
  · rintro ⟨j, -, inside⟩
    exact ⟨j, inside⟩

theorem Kept.free_of_outside (kept : w.Kept) {i : Fin n}
    (outside : holdsLock (w.threads i) = false) : w.holder ≠ some i := by
  intro mine
  rw [(kept.lock i).mpr mine] at outside
  cases outside

/-- Every exchange of a thread keeps the lock and the flag. -/
theorem Kept.exchanges (kept : w.Kept) {i : Fin n} {r : Host.Request}
    {next : Host.Answer r → Act (Except Error Evaluation)} (answer : Host.Answer r)
    (thread : w.threads i = some (.ask r next)) (permits : w.Permits r) :
    (w.after i r (next answer)).Kept := by
  obtain ⟨stage, same⟩ := kept.stages i _ thread
  obtain ⟨later, goes, rest⟩ := EvaluationStage.goes_of_program same.symm answer
  rw [same] at thread
  rw [rest]
  have known : ∀ rest, some later.program = some rest →
      ∃ stage : EvaluationStage, rest = stage.program :=
    fun rest same => ⟨later, (Option.some.inj same).symm⟩
  -- under the lock the flag tells about this thread alone
  have alone : holdsLock (w.threads i) = true → ¬ ∃ j ≠ i, insideCall (w.threads j) = true := by
    rintro holds ⟨j, other, inside⟩
    rw [kept.alone holds other] at inside
    cases inside
  cases goes with
  | locks s code =>
    have free : w.holder = none := permits
    have outside := kept.flag_of_outside (i := i) (by rw [thread]; rfl)
    refine kept.moves known (by simp [EvaluationStage.program, holdsLock]) ?_ ?_
    · intro j other
      simp [free, Ne.symm other]
    · rw [outside]
      simp [EvaluationStage.program, insideCall]
  | raises s code =>
    have holds : holdsLock (w.threads i) = true := by rw [thread]; rfl
    refine kept.moves known ?_ (fun _ _ => Iff.rfl) (iff_of_true rfl (.inl rfl))
    exact iff_of_true rfl ((kept.lock i).mp holds)
  | answers s code result =>
    have holds : holdsLock (w.threads i) = true := by rw [thread]; rfl
    have up : w.busy = true := kept.flag.mpr ⟨i, by rw [thread]; rfl⟩
    refine kept.moves known ?_ (fun _ _ => Iff.rfl) (iff_of_true up (.inl rfl))
    exact iff_of_true rfl ((kept.lock i).mp holds)
  | lowers result =>
    have holds : holdsLock (w.threads i) = true := by rw [thread]; rfl
    refine kept.moves known ?_ (fun _ _ => Iff.rfl) ?_
    · exact iff_of_true rfl ((kept.lock i).mp holds)
    · exact iff_of_false nofun fun inside => inside.elim nofun (alone holds)
  | unlocks result =>
    have holds : holdsLock (w.threads i) = true := by rw [thread]; rfl
    have mine := (kept.lock i).mp holds
    have outside := kept.flag_of_outside (i := i) (by rw [thread]; rfl)
    refine kept.moves known (iff_of_false nofun nofun) ?_ ?_
    · intro j other
      simp [mine, Ne.symm other]
    · rw [outside]
      simp [EvaluationStage.program, insideCall]

theorem Kept.step (kept : w.Kept) (step : Step w w') : w'.Kept := by
  cases step with
  | begins i s code idle =>
    have outside := kept.flag_of_outside (i := i) (by rw [idle]; rfl)
    have free := kept.free_of_outside (i := i) (by rw [idle]; rfl)
    refine kept.moves ?_ (iff_of_false nofun free) (fun _ _ => Iff.rfl) ?_
    · exact fun rest same => ⟨.waiting s code, (Option.some.inj same).symm⟩
    · rw [outside]
      exact ⟨.inr, fun inside => inside.elim nofun id⟩
  | exchanges i answer thread permits => exact kept.exchanges answer thread permits
  | returns i result thread =>
    have outside := kept.flag_of_outside (i := i) (by rw [thread]; rfl)
    have free := kept.free_of_outside (i := i) (by rw [thread]; rfl)
    refine kept.moves (fun _ same => nomatch same) (iff_of_false nofun free)
      (fun _ _ => Iff.rfl) ?_
    rw [outside]
    exact ⟨.inr, fun inside => inside.elim nofun id⟩
  | handles => exact ⟨kept.stages, kept.lock, kept.flag⟩

theorem Reachable.kept (run : w.Reachable source) : w.Kept := by
  induction run with
  | start => exact kept_initial
  | step _ step ih => exact ih.step step

/-! ## The relay -/

/-- What the source gave so far. -/
def events (w : Watch n) : List (Except Error Unit) :=
  w.handled.map Handling.event

/-- All that the relay has asked for. -/
def relayed (w : Watch n) : List (Exchange Host) :=
  w.handled.flatMap Handling.log

/-- The requests that fell inside an evaluation. -/
def requestsInside (w : Watch n) : Nat :=
  w.handled.countP fun h => h.isRequest && h.inside

/-- The invariant of the relay: it has handled a beginning of what the source gives, in order. It is
there as long as the source is not closed, and at work on what is left. -/
structure Serves (w : Watch n) (source : List (Except Error Unit)) : Prop where
  taken : source = w.events ++ w.left
  alive : w.relay = true → closed ∉ w.events
  ended : w.relay = false → ∃ front, w.events = front ++ [closed] ∧ closed ∉ front
  comes : (Interrupts.serve source).Comes w.relayed
    (if w.relay then Interrupts.serve w.left else .done ())
  count : interrupts w.relayed = w.requestsInside

theorem serves_initial : (initial n source).Serves source where
  taken := rfl
  alive _ := List.not_mem_nil
  ended gone := nomatch gone
  comes := .start
  count := rfl

/-- A request calls the debugger exactly if it falls inside an evaluation. -/
theorem Kept.interrupts_handled (kept : w.Kept) {event : Except Error Unit}
    {log : List (Exchange Host)} {goesOn : Bool}
    (run : (Interrupts.forward event).Gives log goesOn)
    (flag : ∀ busy, (⟨.isBusy, busy⟩ : Exchange Host) ∈ log → busy = w.busy) :
    let h : Handling n := ⟨event, log, w.threads⟩
    interrupts log = (h.isRequest && h.inside).toNat := by
  intro h
  have asked := (Interrupts.forward_gives run).2
  cases event with
  | ok _ =>
    obtain ⟨busy, looked, called⟩ := asked
    have same : h.inside = w.busy := by
      rw [Bool.eq_iff_iff, kept.flag]
      exact decide_eq_true_iff
    rw [called, flag busy looked, same]
    rfl
  | error e => exact asked

theorem Serves.step (serves : w.Serves source) (kept : w.Kept) (step : Step w w') :
    w'.Serves source := by
  cases step with
  | begins | exchanges | returns => exact ⟨serves.taken, serves.alive, serves.ended, serves.comes,
      serves.count⟩
  | @handles event rest log goesOn there left run flag =>
    obtain ⟨ends, -⟩ := Interrupts.forward_gives run
    have unclosed := serves.alive there
    have events : (w.handle event rest log goesOn).events = w.events ++ [event] :=
      List.map_append
    have relayed : (w.handle event rest log goesOn).relayed = w.relayed ++ log := by
      simp [Watch.relayed, handle]
    have inside : (w.handle event rest log goesOn).requestsInside =
        w.requestsInside + interrupts log := by
      rw [kept.interrupts_handled run flag, requestsInside, handle, List.countP_append,
        requestsInside, List.countP_singleton]
      congr 1
      cases Handling.isRequest _ && Handling.inside _ <;> rfl
    refine ⟨?_, ?_, ?_, ?_, ?_⟩
    · rw [events, serves.taken, left, List.append_assoc]
      rfl
    · rintro (rfl : goesOn = true)
      have other : closed ≠ event := fun same => Bool.false_ne_true (ends.mpr same.symm).symm
      simp [events, unclosed, other]
    · rintro (rfl : goesOn = false)
      obtain rfl := ends.mp rfl
      exact ⟨w.events, events, unclosed⟩
    · have comes := serves.comes
      rw [there, left] at comes
      rw [relayed]
      exact comes.trans run.comes_bind
    · have more : interrupts (w.relayed ++ log) = interrupts w.relayed + interrupts log :=
        List.countP_append
      rw [relayed, inside, more, serves.count]

theorem Reachable.serves (run : w.Reachable source) : w.Serves source := by
  induction run with
  | start => exact serves_initial
  | step run step ih => exact ih.step run.kept step

/-- The flag is up exactly while an evaluation is inside its call of the debugger, so it is down when
all have returned. The relay handles what the source gives, one event after the other, up to the
first that closes it and no further; nothing else ends it, neither an error of the source nor one of
the target, and nothing keeps it from handling the next event. Its requests interrupt the target as
often as one of them falls inside an evaluation. -/
theorem Reachable.interrupts_inside (run : w.Reachable source) :
    (w.busy = true ↔ ∃ i, insideCall (w.threads i) = true) ∧
    ((∀ i, w.threads i = none ∨ ∃ result, w.threads i = some (.done result)) → w.busy = false) ∧
    source = w.events ++ w.left ∧
    (w.relay = true ↔ closed ∉ w.events) ∧
    (closed ∈ w.events → ∃ front, w.events = front ++ [closed] ∧ closed ∉ front) ∧
    (Interrupts.serve source).Comes w.relayed
      (if w.relay then Interrupts.serve w.left else .done ()) ∧
    (w.relay = true → ∀ event rest answer, w.left = event :: rest → ∃ log goesOn,
      Step w (w.handle event rest log goesOn) ∧
      ∀ a, (⟨.debugger .interrupt, a⟩ : Exchange Host) ∈ log → a = answer) ∧
    interrupts w.relayed = w.requestsInside := by
  have kept := run.kept
  have serves := run.serves
  have gone : w.relay ≠ true → ∃ front, w.events = front ++ [closed] ∧ closed ∉ front :=
    fun off => serves.ended (Bool.eq_false_iff.mpr off)
  refine ⟨kept.flag, ?_, serves.taken, ⟨serves.alive, ?_⟩, ?_, serves.comes, ?_, serves.count⟩
  · intro idle
    rw [Bool.eq_false_iff, Ne, kept.flag]
    rintro ⟨i, inside⟩
    rcases idle i with none | ⟨result, returned⟩
    · rw [none] at inside
      cases inside
    · rw [returned] at inside
      cases inside
  · intro unclosed
    by_contra off
    obtain ⟨front, events, -⟩ := gone off
    exact unclosed (by simp [events])
  · intro mem
    exact gone fun on => serves.alive on mem
  · intro there event rest answer left
    obtain ⟨log, goesOn, forwards, flag, answered⟩ :=
      Interrupts.forward_possible event w.busy answer
    exact ⟨log, goesOn, .handles there left forwards flag, answered⟩

/-- A request before an evaluation, one during it that the target does not take, one behind it, and
an error of the source in between. -/
theorem Reachable.interrupts_inside_refused :
    ∃ w : Watch 1, w.Reachable [.ok (), .ok (), .error (.protocol "x"), .ok (), closed] ∧
      w.busy = false ∧ w.relay = false ∧ w.events = [.ok (), .ok (), .error (.protocol "x"), .ok (),
        closed] ∧ interrupts w.relayed = 1 := by
  have ignored : (Interrupts.forward (.ok ())).Gives [⟨Host.Request.isBusy, false⟩] true :=
    .ask _ _ (.done _)
  have refused : (Interrupts.forward (.ok ())).Gives [⟨Host.Request.isBusy, true⟩,
      ⟨Host.Request.debugger .interrupt, Except.error .disconnected⟩,
      ⟨Host.Request.log (Log.warn .kernel ("interrupt target: " ++ Error.disconnected.message)),
        ()⟩] true :=
    .ask _ _ (.ask _ _ (.ask _ _ (.done _)))
  have failed : (Interrupts.forward (.error (.protocol "x"))).Gives
      [⟨Host.Request.log (Log.error .relay ("wait for interrupt: " ++
        (Error.protocol "x").message)), ()⟩] true :=
    .ask _ _ (.done _)
  have closing : (Interrupts.forward closed).Gives [] false := .done _
  have begun : (initial 1 [.ok (), .ok (), .error (.protocol "x"), .ok (), closed]).Reachable _ :=
    .start
  have run := ((((((((((begun.step
    (.handles rfl rfl ignored (by simp [initial]))).step
    (.begins 0 default "x" rfl)).step
    (.exchanges 0 (r := .lockTarget) () rfl rfl)).step
    (.exchanges 0 (r := .setBusy true) () rfl trivial)).step
    (.handles rfl rfl refused (by simp [after]))).step
    (.handles rfl rfl failed (by simp))).step
    (.exchanges 0 (r := .debugger (.evaluate "x" _)) (Except.error .disconnected) rfl trivial)).step
    (.exchanges 0 (r := .setBusy false) () rfl trivial)).step
    (.handles rfl rfl ignored (by simp [after, handle]))).step
    (.handles rfl rfl closing (by simp))).step
    (.exchanges 0 (r := .unlockTarget) () rfl trivial)
  obtain ⟨-, -, -, -, -, -, -, counted⟩ := run.interrupts_inside
  exact ⟨_, run, rfl, rfl, rfl, counted.trans (by decide)⟩

end Watch

end NotebookKernel
