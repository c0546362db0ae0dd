import NotebookKernel.Proofs.Dap.Listening
import NotebookKernel.Proofs.Dap.Responses

/-!
Who is left waiting when the reader has ended.

The end of the reader drops the requests that are pending then, and whoever waits for one of them is
told that the connection is closed. A request that is registered later is pending again, though
nobody will take its response any more, and events are kept for a launch although none can come.
`Traffic.Orderly.left_waiting` says exactly which waits end; `Traffic.Orderly.not_woken` shows that
the others occur.
-/

namespace NotebookKernel.Dap

/-- Once the reader has ended, only threads act. -/
def Quiet (history : List Occurrence) : Prop :=
  history.Pairwise fun later earlier =>
    earlier = .ended → ∃ i exchange, later = .exchanged i exchange

/-- A response was expected only when the reader had ended. -/
def ExpectedAfterEnd (seq : Nat) (history : List Occurrence) : Prop :=
  ∃ since i before, history = since ++ .exchanged i ⟨.expect seq, ()⟩ :: before ∧ .ended ∈ before

theorem ExpectedAfterEnd.mono {seq : Nat} {earlier history : List Occurrence}
    (late : ExpectedAfterEnd seq earlier) (within : earlier <:+ history) :
    ExpectedAfterEnd seq history := by
  rcases late with ⟨since, i, before, rfl, ended⟩
  rcases within with ⟨later, rfl⟩
  exact ⟨later ++ since, i, before, (List.append_assoc ..).symm, ended⟩

namespace Traffic

/-- A thread waits for the response to a request. -/
def AwaitsResponse (t : Traffic) (i seq : Nat) : Prop :=
  ∃ task, (∃ next, t.workers i = some ⟨task, .ask (.await seq) next⟩) ∨
    ∃ next, t.workers i = some ⟨task, .ask (.awaitInTime seq) next⟩

/-- A thread waits for an event. -/
def AwaitsEvent (t : Traffic) (i : Nat) (name : String) : Prop :=
  ∃ task next, t.workers i = some ⟨task, .ask (.awaitEvent name) next⟩

/-- Nothing that a thread waits for is still kept open for it. -/
def Woken (t : Traffic) : Prop :=
  (∀ i seq, t.AwaitsResponse i seq → seq ∉ t.connection.pending) ∧
    ∀ i name, t.AwaitsEvent i name → t.connection.listening = false

variable {t u : Traffic} {i seq : Nat}

theorem Reachable.quiet (reachable : t.Reachable) : Quiet t.history := by
  unfold Reachable Leads at reachable
  induction reachable with
  | refl => exact List.Pairwise.nil
  | @tail t u before step quiet =>
    have kept := Reachable.kept before
    have reads : t.connection.reading = true → ∀ o ∈ t.history, o ≠ .ended := by
      rintro reading o mem rfl
      rw [kept.reading.mpr (.inl mem)] at reading
      cases reading
    have noise : t.connection.reading = true → ∀ o, Quiet (o :: t.history) := by
      intro reading o
      exact List.pairwise_cons.mpr
        ⟨fun e mem ended => absurd ended (reads reading e mem), quiet⟩
    have exchanged : ∀ i exchange, Quiet (.exchanged i exchange :: t.history) := by
      intro i exchange
      exact List.pairwise_cons.mpr ⟨fun _ _ _ => ⟨i, exchange, rfl⟩, quiet⟩
    cases step with
    | answer => exact exchanged _ _
    | free => exact exchanged _ _
    | read reading => exact noise reading _
    | fail reading => exact noise reading _
    | die reading => exact noise reading _
    | «break» reading => exact noise reading _
    | _ => exact quiet

/-- A thread that waits for a response wrote the request. -/
theorem Kept.written_of_awaits (kept : t.Kept) (awaits : t.AwaitsResponse i seq) :
    (Life.of seq t.history).stage = .written i := by
  rcases awaits with ⟨task, ⟨next, worker⟩ | ⟨next, worker⟩⟩
  · have allowed := (kept.asked worker none).1
    exact kept.told.senders.written i seq allowed.2
  · have allowed := (kept.asked worker .timedOut).1
    exact kept.told.senders.written i seq allowed.2

/-- Once the reader has ended, a request that a thread waits for is pending if it was registered
afterwards. -/
theorem Reachable.mem_pending_iff (reachable : t.Reachable) (ended : .ended ∈ t.history)
    (awaits : t.AwaitsResponse i seq) :
    seq ∈ t.connection.pending ↔ ExpectedAfterEnd seq t.history := by
  have kept := reachable.kept
  have lawful := kept.told.lawful
  have written := kept.written_of_awaits awaits
  rw [kept.told.table.pending]
  constructor
  · intro awaited
    rcases outstanding_of_awaited awaited with ⟨since, j, before, happened, unsettled⟩
    refine ⟨since, j, before, happened, ?_⟩
    rw [happened] at ended
    rcases List.mem_append.mp ended with mem | mem
    · exact absurd (.inr (.inr rfl)) (unsettled .ended mem)
    · rcases List.mem_cons.mp mem with same | mem
      · cases same
      · exact mem
  · rintro ⟨since, j, before, happened, earlier⟩
    apply awaited_of_outstanding lawful
    refine ⟨since, j, before, happened, fun o mem settles => ?_⟩
    have quiet := reachable.quiet
    rw [Quiet, happened, List.pairwise_append] at quiet
    have acts := quiet.2.2 o mem .ended (List.mem_cons_of_mem _ earlier) rfl
    rcases acts with ⟨k, exchange, rfl⟩
    rcases settles with ⟨_, _, same, -⟩ | ⟨k, forgets⟩ | same
    · cases same
    · -- a request that was taken back is not waited for
      have here : .exchanged k ⟨.forget seq, ()⟩ ∈ t.history := by
        rw [happened, ← forgets]
        exact List.mem_append_left _ mem
      have reached := (stage_of_forgotten lawful here).2
      rw [written, Stage.rank] at reached
      omega
    · cases same

/-! ## Waits that end, and waits that do not -/

/-- A response that is not pending has come, or nobody expects it any more. -/
theorem Kept.fetch?_of_not_pending (kept : t.Kept) (gone : seq ∉ t.connection.pending) :
    ∃ response d, t.connection.fetch? seq = some (response, d) ∧
      ∀ r, response = some r → ∃ past, FirstResponse seq r past t.history := by
  have table := kept.told.table
  unfold Connection.fetch?
  cases delivered : t.connection.delivered.lookup seq with
  | none =>
    rw [if_neg gone]
    exact ⟨none, _, rfl, fun r same => nomatch same⟩
  | some first =>
    refine ⟨some first, _, rfl, ?_⟩
    rintro r ⟨⟩
    have waiting := (table.delivered seq).symm.trans delivered
    have arrived : (Life.of seq t.history).reply = .arrived first := Reply.of_waiting waiting
    exact firstResponse kept.told.lawful (.inl arrived)

theorem Kept.fetch?_of_pending (kept : t.Kept) (pending : seq ∈ t.connection.pending) :
    t.connection.fetch? seq = none := by
  have awaited := (kept.told.table.pending seq).mp pending
  have nothing : t.connection.delivered.lookup seq = none := by
    rw [kept.told.table.delivered, awaited]
    rfl
  unfold Connection.fetch?
  rw [nothing]
  exact if_pos pending

theorem Step.suffix {may : Traffic → Debugger.Request → Prop} (step : Step may t u) :
    t.history <:+ u.history := by
  cases step with
  | begin | finish | arrive => exact List.suffix_rfl
  | _ => exact List.suffix_cons _ _

theorem Leads.suffix (leads : t.Leads u) : t.history <:+ u.history := by
  induction leads with
  | refl => exact List.suffix_rfl
  | tail _ step ih => exact ih.trans step.suffix

/-- No step answers a thread whose request is pending. -/
theorem Kept.waits (kept : t.Kept) (pending : seq ∈ t.connection.pending)
    {task : Debugger.Request} {next : Option Response → LinkAct Unit}
    (worker : t.workers i = some ⟨task, .ask (.await seq) next⟩)
    {may : Traffic → Debugger.Request → Prop} (step : Step may t u) :
    u.workers i = t.workers i := by
  have elsewhere : ∀ {j : Nat} {w : Option Worker}, j ≠ i →
      Function.update t.workers j w i = t.workers i :=
    fun other => Function.update_of_ne (Ne.symm other) ..
  cases step with
  | begin task c idle =>
    apply elsewhere
    rintro rfl
    cases idle.symm.trans worker
  | answer here answered =>
    apply elsewhere
    rintro rfl
    cases worker.symm.trans here
    cases (kept.fetch?_of_pending pending).symm.trans answered
  | free here free =>
    apply elsewhere
    rintro rfl
    cases worker.symm.trans here
    exact free
  | finish here =>
    apply elsewhere
    rintro rfl
    cases worker.symm.trans here
  | _ => rfl

/-- A request that is registered after the end of the reader is waited for without end. -/
theorem Reachable.waits_forever (reachable : t.Reachable) (ended : .ended ∈ t.history)
    (late : ExpectedAfterEnd seq t.history) {task : Debugger.Request}
    {next : Option Response → LinkAct Unit}
    (worker : t.workers i = some ⟨task, .ask (.await seq) next⟩)
    (leads : t.Leads u) : u.workers i = t.workers i := by
  unfold Leads at leads
  induction leads with
  | refl => rfl
  | @tail v u run step ih =>
    have there : v.Reachable := Relation.ReflTransGen.trans reachable run
    have within := Leads.suffix run
    have kept := there.kept
    have still := ih.trans worker
    have pending := (there.mem_pending_iff (within.subset ended) ⟨task, .inl ⟨next, still⟩⟩).mpr (late.mono within)
    exact (kept.waits pending still step).trans ih

/-- Who is left waiting when the reader has ended. -/
theorem Orderly.left_waiting (orderly : t.Orderly) (ended : .ended ∈ t.history) :
    -- all are woken if each request was registered before the end and no launch waits
    (t.Woken ↔ (∀ i seq, t.AwaitsResponse i seq → ¬ ExpectedAfterEnd seq t.history) ∧
      ∀ i name, ¬ t.AwaitsEvent i name) ∧
    -- a request that is waited for is pending if it was registered after the end
    (∀ i seq, t.AwaitsResponse i seq →
      (seq ∈ t.connection.pending ↔ ExpectedAfterEnd seq t.history)) ∧
    -- one that was registered before ends, with the response that had come or with none
    (∀ i seq, t.AwaitsResponse i seq → ¬ ExpectedAfterEnd seq t.history →
      ∃ response d, t.connection.fetch? seq = some (response, d) ∧
        ∀ r, response = some r → ∃ past, FirstResponse seq r past t.history) ∧
    -- one that was registered after does not end
    (∀ i seq task next, t.workers i = some ⟨task, .ask (.await seq) next⟩ →
      ExpectedAfterEnd seq t.history → ∀ u, t.Leads u → u.workers i = t.workers i) ∧
    -- and a launch is not told that no event can come
    ∀ i name, t.AwaitsEvent i name → t.connection.listening = true ∧
      ∀ d, t.connection.answer? (.awaitEvent name) ≠ some (.closed, d) := by
  have reachable := orderly.reachable
  have late : ∀ i seq, t.AwaitsResponse i seq →
      (seq ∈ t.connection.pending ↔ ExpectedAfterEnd seq t.history) :=
    fun i seq awaits => reachable.mem_pending_iff ended awaits
  have listening : ∀ i name, t.AwaitsEvent i name → t.connection.listening = true :=
    fun i name ⟨task, next, worker⟩ => orderly.listening_of_awaits worker
  refine ⟨⟨fun woken => ⟨?_, ?_⟩, fun ⟨early, unawaited⟩ => ⟨?_, ?_⟩⟩, late, ?_, ?_, ?_⟩
  · intro i seq awaits after
    exact woken.1 i seq awaits ((late i seq awaits).mpr after)
  · intro i name awaits
    have off := woken.2 i name awaits
    rw [listening i name awaits] at off
    cases off
  · intro i seq awaits pending
    exact early i seq awaits ((late i seq awaits).mp pending)
  · intro i name awaits
    exact absurd awaits (unawaited i name)
  · intro i seq awaits early
    apply reachable.kept.fetch?_of_not_pending
    intro pending
    exact early ((late i seq awaits).mp pending)
  · intro i seq task next worker after u leads
    exact reachable.waits_forever ended after worker leads
  · intro i name awaits
    refine ⟨listening i name awaits, fun d answered => ?_⟩
    rw [Connection.answer?] at answered
    split at answered
    · cases answered
    · rw [listening i name awaits] at answered
      cases answered

/-- The bytes end before the first message, and then a thread asks for the frames of the target: it
waits for ever. -/
theorem Orderly.left_waiting_frames : ∃ t : Traffic, t.Orderly ∧
    .ended ∈ t.history ∧ ¬ t.Woken ∧ (t.workers 0).isSome ∧
      ∀ u, t.Leads u → u.workers 0 = t.workers 0 := by
  have run := Relation.ReflTransGen.single (@Step.fail Sole initial true _ _ rfl rfl)
  have run := run.tail
    (@Step.begin _ _ 0 (.frames ⟨1⟩) default rfl fun launches => nomatch launches)
  have run := run.tail (.answer (i := 0) rfl rfl)
  have run := run.tail (.answer (i := 0) rfl rfl)
  have run := run.tail (@Step.free _ _ 0 _ (.write _) _ (.ok ()) rfl trivial)
  have waiting := Orderly.left_waiting run (List.mem_of_getLast? rfl)
  have gone : ∀ o, Occurrence.ended ∈ [o, .ended] :=
    fun o => List.mem_cons_of_mem o List.mem_cons_self
  have unwoken : ¬ Woken _ := fun woken =>
    (waiting.1.mp woken).1 0 1 ⟨_, .inl ⟨_, rfl⟩⟩ ⟨[_], 0, _, rfl, gone _⟩
  have forever := waiting.2.2.2.1 0 1 _ _ rfl ⟨[_], 0, _, rfl, gone _⟩
  exact ⟨_, run, List.mem_of_getLast? rfl, unwoken, rfl, forever⟩

/-- When the reader has ended, a request waits for a response that is still expected, and a launch
waits for an event that is still kept for it. -/
theorem Orderly.not_woken :
    (∃ t : Traffic, t.Orderly ∧ .ended ∈ t.history ∧
      ∃ i seq, t.AwaitsResponse i seq ∧ seq ∈ t.connection.pending) ∧
    ∃ t : Traffic, t.Orderly ∧ .ended ∈ t.history ∧
      ∃ i name, t.AwaitsEvent i name ∧ t.connection.listening = true := by
  constructor
  · have run := Relation.ReflTransGen.single (@Step.fail Sole initial true _ _ rfl rfl)
    have run := run.tail
      (@Step.begin _ _ 0 (.frames ⟨1⟩) default rfl fun launches => nomatch launches)
    have run := run.tail (.answer (i := 0) rfl rfl)
    have run := run.tail (.answer (i := 0) rfl rfl)
    have run := run.tail (@Step.free _ _ 0 _ (.write _) _ (.ok ()) rfl trivial)
    exact ⟨_, run, List.mem_of_getLast? rfl, 0, 1, ⟨_, .inl ⟨_, rfl⟩⟩, List.mem_cons_self⟩
  · rcases next_acknowledgement with ⟨message, ⟨_, _, _, _, _⟩, found, response, number, success⟩
    cases number
    cases success
    have run := Relation.ReflTransGen.single
      (@Step.begin Sole initial 0 (.launch default) default rfl fun _ _ _ here => nomatch here)
    have run := run.tail (.answer (i := 0) rfl rfl)
    have run := run.tail (.answer (i := 0) rfl rfl)
    have run := run.tail (.answer (i := 0) rfl rfl)
    have run := run.tail (@Step.free _ _ 0 _ (.write _) _ (.ok ()) rfl trivial)
    have run := run.tail (.arrive acknowledgement rfl)
    have kept := (Orderly.reachable run).kept
    have came := kept.told.table.fetch?_response [] response List.mem_cons_self rfl
    rcases came with ⟨d, fetched⟩
    have reading : d.reading = true :=
      (reading_of_fetch? fetched).trans (Connection.deliver_still _ message).1
    have run := run.tail (.read rfl found)
    have run := run.tail (@Step.answer _ _ 0 _ (.await 1) _ _ _ rfl fetched)
    have run := run.tail (.answer (i := 0) rfl rfl)
    have run := run.tail (.answer (i := 0) rfl rfl)
    have run := run.tail (@Step.free _ _ 0 _ (.write _) _ (.ok ()) rfl trivial)
    have run := run.tail (.break reading)
    have listening := @Orderly.listening_of_awaits _ 0 _ "initialized" run _ rfl
    exact ⟨_, run, List.mem_cons_self, 0, "initialized", ⟨_, _, rfl⟩, listening⟩

end Traffic
end NotebookKernel.Dap
