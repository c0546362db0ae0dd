import NotebookKernel.Proofs.Dap.Workers

/-!
For whom events are kept.

While targets are launched one at a time, a thread that listens is the one that launches, and events
are kept as long as it listens. `Traffic.Orderly.listens` says so of all that may come to be.
-/

namespace NotebookKernel.Dap.Traffic

/-- Events are kept for those that listen, and only one thread launches. -/
structure Listens (t : Traffic) : Prop where
  listening : ∀ i, (t.sender i).listening = true → t.connection.listening = true
  launching : ∀ i w, (t.sender i).listening = true → t.workers i = some w →
    w.task.launches = true
  alone : ∀ i j w v, t.workers i = some w → t.workers j = some v →
    w.task.launches = true → v.task.launches = true → i = j

variable {t : Traffic} {i : Nat} {task : Debugger.Request}

theorem listens_initial : initial.Listens where
  listening _ on := nomatch on
  launching _ _ on := nomatch on
  alone _ _ _ _ here := nomatch here

/-- A listening thread is at work. -/
theorem Kept.worker (kept : t.Kept) (on : (t.sender i).listening = true) :
    ∃ w, t.workers i = some w := by
  have works := kept.works i
  cases worker : t.workers i with
  | some w => exact ⟨w, rfl⟩
  | none =>
    rw [worker] at works
    rw [works.2] at on
    cases on

section Exchanges

variable {r : Link.Request} {next : Link.Answer r → LinkAct Unit} {answer : Link.Answer r}
  {d : Connection}

/-- After an exchange, events are kept for the thread if it listens, and still for the others. -/
theorem Listens.of_moves (listens : t.Listens) (kept : t.Kept) {rest : LinkAct Unit}
    (worker : t.workers i = some ⟨task, rest⟩) {what : Option (Nat × Move)} {h : Sender}
    (moves : Moves task.launches t.connection (t.sender i) what d h) :
    (h.listening = true → d.listening = true ∧ task.launches = true) ∧
      ∀ j, j ≠ i → (t.sender j).listening = true → d.listening = true := by
  have own : (t.sender i).listening = true →
      t.connection.listening = true ∧ task.launches = true :=
    fun on => ⟨listens.listening i on, listens.launching i _ on worker⟩
  cases moves with
  | @move n move =>
    rw [(moved_still t.connection n move).1]
    exact ⟨own, fun j _ on => listens.listening j on⟩
  | listen launching => exact ⟨fun _ => ⟨rfl, launching⟩, fun _ _ _ => rfl⟩
  | unlisten on =>
    refine ⟨fun off => (nomatch off), ?_⟩
    -- another listener would be a second launch
    intro j thread also
    rcases kept.worker also with ⟨w, other⟩
    have launches := listens.launching j w also other
    exact absurd (listens.alone j i w _ other worker launches (own on).2) thread
  | other agrees =>
    rw [agrees.listening]
    exact ⟨own, fun j _ on => listens.listening j on⟩

theorem Listens.exchanged (listens : t.Listens) (kept : t.Kept)
    (worker : t.workers i = some ⟨task, .ask r next⟩)
    (moves : Moves task.launches t.connection (t.sender i) (move? ⟨r, answer⟩) d
      ((t.sender i).after ⟨r, answer⟩)) :
    (t.exchanged i task ⟨r, answer⟩ (next answer) d).Listens := by
  have ⟨own, others⟩ := listens.of_moves kept worker moves
  -- every thread is at the same task as before
  have before : ∀ {j w}, (t.exchanged i task ⟨r, answer⟩ (next answer) d).workers j = some w →
      ∃ v, t.workers j = some v ∧ v.task = w.task := by
    intro j w here
    by_cases thread : j = i
    · subst thread
      cases (Function.update_self ..).symm.trans here
      exact ⟨_, worker, rfl⟩
    · exact ⟨w, (Function.update_of_ne thread ..).symm.trans here, rfl⟩
  have sender := fun j => Sender.along_exchanged i j ⟨r, answer⟩ t.history
  refine ⟨fun j on => ?_, fun j w on here => ?_, fun j k w v here there launches also => ?_⟩
  · replace on := (congrArg Sender.listening (sender j)).symm.trans on
    by_cases thread : j = i
    · subst thread
      rw [Function.update_self] at on
      exact (own on).1
    · rw [Function.update_of_ne thread] at on
      exact others j thread on
  · replace on := (congrArg Sender.listening (sender j)).symm.trans on
    rcases before here with ⟨v, earlier, same⟩
    rw [← same]
    by_cases thread : j = i
    · subst thread
      rw [Function.update_self] at on
      cases worker.symm.trans earlier
      exact (own on).2
    · rw [Function.update_of_ne thread] at on
      exact listens.launching j v on earlier
  · rcases before here with ⟨w', earlier, same⟩
    rcases before there with ⟨v', alsoEarlier, alsoSame⟩
    rw [← same] at launches
    rw [← alsoSame] at also
    exact listens.alone j k w' v' earlier alsoEarlier launches also

end Exchanges

theorem Listens.begun (listens : t.Listens) (kept : t.Kept) (c : Client)
    (idle : t.workers i = none) (sole : t.Sole task) :
    { t with workers := Function.update t.workers i (some (.start task c)) }.Listens := by
  have resting := kept.works i
  rw [idle] at resting
  have before : ∀ {j w}, Function.update t.workers i (some (.start task c)) j = some w →
      j = i ∧ w = .start task c ∨ t.workers j = some w := by
    intro j w here
    by_cases thread : j = i
    · subst thread
      cases (Function.update_self ..).symm.trans here
      exact .inl ⟨rfl, rfl⟩
    · exact .inr ((Function.update_of_ne thread ..).symm.trans here)
  refine ⟨listens.listening, fun j w on here => ?_, fun j k w v here there launches also => ?_⟩
  · rcases before here with ⟨rfl, -⟩ | earlier
    · cases resting.2.symm.trans on
    · exact listens.launching j w on earlier
  · rcases before here with ⟨rfl, rfl⟩ | earlier
    · rcases before there with ⟨rfl, -⟩ | alsoEarlier
      · rfl
      · rw [sole launches k v alsoEarlier] at also
        cases also
    · rcases before there with ⟨rfl, rfl⟩ | alsoEarlier
      · rw [sole also j w earlier] at launches
        cases launches
      · exact listens.alone j k w v earlier alsoEarlier launches also

theorem Listens.finished (listens : t.Listens) :
    { t with workers := Function.update t.workers i none }.Listens := by
  have before : ∀ {j w}, Function.update t.workers i none j = some w → t.workers j = some w := by
    intro j w here
    by_cases thread : j = i
    · subst thread
      cases (Function.update_self ..).symm.trans here
    · exact (Function.update_of_ne thread ..).symm.trans here
  refine ⟨listens.listening, fun j w on here => ?_, fun j k w v here there => ?_⟩
  · exact listens.launching j w on (before here)
  · exact listens.alone j k w v (before here) (before there)

/-- The reader leaves it to the threads for whom events are kept. -/
theorem Listens.read (listens : t.Listens) {d : Connection} {o : Occurrence}
    (same : d.listening = t.connection.listening)
    (apart : ∀ i, Sender.along i (o :: t.history) = t.sender i) :
    (Traffic.mk d t.workers (o :: t.history)).Listens := by
  refine ⟨fun i on => ?_, fun i w on => ?_, listens.alone⟩
  · replace on := (congrArg Sender.listening (apart i)).symm.trans on
    exact same.trans (listens.listening i on)
  · replace on := (congrArg Sender.listening (apart i)).symm.trans on
    exact listens.launching i w on

theorem Listens.step {u : Traffic} (listens : t.Listens) (kept : t.Kept) (step : Step Sole t u) :
    u.Listens := by
  cases step with
  | begin task c idle sole => exact listens.begun kept c idle sole
  | @answer i task r next answer d worker answered =>
    have allowed := (kept.asked worker answer).1
    exact listens.exchanged kept worker (moves_of_answer allowed answered)
  | @free i task r next answer worker free =>
    have allowed := (kept.asked worker answer).1
    exact listens.exchanged kept worker (moves_of_free allowed free)
  | finish => exact listens.finished
  | arrive => exact ⟨listens.listening, listens.launching, listens.alone⟩
  | read => exact listens.read (Connection.deliver_still _ _).2 fun _ => rfl
  | fail => exact listens.read rfl fun _ => rfl
  | die => exact listens.read rfl fun _ => rfl
  | «break» => exact listens.read rfl fun _ => rfl

theorem Orderly.listens (orderly : t.Orderly) : t.Listens := by
  unfold Orderly at orderly
  induction orderly with
  | refl => exact listens_initial
  | tail before step ih =>
    have kept := (Orderly.reachable before).kept
    exact ih.step kept step

/-- Events are kept for a launch that waits for one. -/
theorem Orderly.listening_of_awaits {name : String} (orderly : t.Orderly)
    {next : Awaited Event → LinkAct Unit}
    (worker : t.workers i = some ⟨task, .ask (.awaitEvent name) next⟩) :
    t.connection.listening = true := by
  have allowed := (orderly.reachable.kept.asked worker .timedOut).1
  exact orderly.listens.listening i allowed.2

end NotebookKernel.Dap.Traffic
