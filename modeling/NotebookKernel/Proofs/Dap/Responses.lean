import NotebookKernel.Proofs.Dap.Workers

/-!
Responses reach exactly the requests they answer.

`Traffic.Reachable.responses_matched` says so for any number of threads and any messages, in any
order: no number is used twice, the pending requests are those that were registered, could be
written and are not answered, and what a request returns is the first response with its number that
came after it was registered.
-/

namespace NotebookKernel.Dap

/-- A thread fetched the response to a request. -/
def Occurrence.Fetches (i seq : Nat) (r : Response) (o : Occurrence) : Prop :=
  o = .exchanged i ⟨.await seq, some r⟩ ∨ o = .exchanged i ⟨.awaitInTime seq, .arrived r⟩

theorem Occurrence.Fetches.exchanged {i seq : Nat} {r : Response} {o : Occurrence}
    (fetches : o.Fetches i seq r) :
    ∃ exchange, o = .exchanged i exchange ∧ move? exchange = some (seq, .wait (some r)) := by
  rcases fetches with rfl | rfl
  · exact ⟨_, rfl, rfl⟩
  · exact ⟨_, rfl, rfl⟩

/-! ## Responses that are fetched -/

section Fetched

variable {history earlier past : List Occurrence} {o : Occurrence} {i seq : Nat} {r : Response}

theorem fits_of_fetches (lawful : Lawful (o :: earlier)) (fetches : o.Fetches i seq r) :
    Life.of seq earlier = ⟨.written i, .arrived r⟩ := by
  rcases fetches.exchanged with ⟨exchange, rfl, found⟩
  exact lawful.fits found

variable {i' seq' : Nat} {o' : Occurrence} {r' : Response} {earlier' : List Occurrence}

/-- A request returns a response only once. -/
theorem not_fetched_before (lawful : Lawful (o' :: earlier')) (within : o :: earlier <:+ earlier')
    (fetches : o.Fetches i seq r) (again : o'.Fetches i' seq r') : False := by
  rcases within with ⟨between, rfl⟩
  have before := lawful.tail.of_append
  rcases fetches.exchanged with ⟨exchange, rfl, found⟩
  have reached := lawful.tail.rank_le seq
  rw [Life.of_move found, if_pos rfl, Life.stage_move, fits_of_fetches lawful again] at reached
  exact Nat.not_succ_le_self 3 reached

theorem eq_of_suffixes {l l' : List Occurrence} (one : l <:+ history) (other : l' <:+ history)
    (length : l.length = l'.length) : l = l' :=
  (List.suffix_of_suffix_length_le one other (Nat.le_of_eq length)).eq_of_length length

/-- What came at one moment answers one request. -/
theorem FirstResponse.same_number (one : earlier <:+ history) (other : earlier' <:+ history)
    (first : FirstResponse seq r past earlier) (also : FirstResponse seq' r' past earlier') :
    seq = seq' := by
  rcases first with ⟨⟨since, message, rfl, response⟩, number, -⟩
  rcases also with ⟨⟨since', message', rfl, response'⟩, number', -⟩
  have here : .received message :: past <:+ history := (List.suffix_append since _).trans one
  have there : .received message' :: past <:+ history := (List.suffix_append since' _).trans other
  have same := eq_of_suffixes here there rfl
  cases same
  cases response.symm.trans response'
  omega

/-- Two requests do not return the same response. -/
theorem fetched_once (lawful : Lawful history) (one : o :: earlier <:+ history)
    (other : o' :: earlier' <:+ history) (fetches : o.Fetches i seq r)
    (again : o'.Fetches i' seq r') : o :: earlier = o' :: earlier' := by
  rcases Nat.lt_trichotomy earlier.length earlier'.length with shorter | same | longer
  · have within : o :: earlier <:+ earlier' :=
      List.suffix_of_suffix_length_le one ((List.suffix_cons o' earlier').trans other) shorter
    exact (not_fetched_before (lawful.of_suffix other) within fetches again).elim
  · apply eq_of_suffixes one other
    rw [List.length_cons, List.length_cons, same]
  · have within : o' :: earlier' <:+ earlier :=
      List.suffix_of_suffix_length_le other ((List.suffix_cons o earlier).trans one) longer
    exact (not_fetched_before (lawful.of_suffix one) within again fetches).elim

/-- A response to a pending request is there for it to be fetched. -/
theorem Table.fetch?_response {c : Connection} {message : Json} (table : Table c history)
    (unread : Bytes) (response : Message.ofJson? message = some (.response r))
    (pending : seq ∈ c.pending) (number : (seq : Int) = r.requestSeq) :
    ∃ d, ({ c with unread }.deliver message).1.fetch? seq = some (some r, d) := by
  have nothing : c.delivered.lookup seq = none := by
    rw [table.delivered, (table.pending seq).mp pending]
    rfl
  have delivered : (c.delivered ++ [(seq, r)]).lookup seq = some r := by
    rw [List.lookup_append, nothing, Option.none_or, List.lookup_cons_self]
  rw [Connection.deliver_response (c := { c with unread }) response pending number]
  unfold Connection.fetch?
  simp only [delivered]
  exact ⟨_, rfl⟩

end Fetched

/-! ## Requests that could not be written -/

/-- Every request to the connection has an answer. -/
theorem Link.nonempty_answer (r : Link.Request) : Nonempty (Link.Answer r) := by
  cases r with
  | awaitInTime seq => exact ⟨.timedOut⟩
  | awaitEvent name => exact ⟨.timedOut⟩
  | _ => exact ⟨(default : _)⟩

/-- What a thread is sending when it asks. -/
def Link.Request.underWay : Link.Request → Option (Nat × Progress)
  | .expect seq => some (seq, .allocated)
  | .write r => some (r.seq, .expected)
  | .forget seq => some (seq, .failed)
  | _ => none

theorem Sender.Allows.sending {launching : Bool} {h : Sender} {r : Link.Request}
    (allowed : h.Allows launching r) : h.sending = r.underWay := by
  cases r with
  | await | awaitInTime | listen | unlisten | awaitEvent => exact allowed.1
  | _ => exact allowed

theorem Link.Request.of_underWay_failed {r : Link.Request} {seq : Nat}
    (failed : r.underWay = some (seq, .failed)) : r = .forget seq := by
  cases r with
  | forget n =>
    cases failed
    rfl
  | _ => cases failed

namespace Traffic

/-- A thread is about to take back that a response is expected. -/
def Withdrawing (t : Traffic) (i seq : Nat) : Prop :=
  ∃ task next, t.workers i = some ⟨task, .ask (.forget seq) next⟩

variable {t : Traffic} {i seq : Nat}

/-- A thread whose request could not be written takes back next that a response is expected. -/
theorem Kept.withdrawing (kept : t.Kept) (stage : (Life.of seq t.history).stage = .failed i) :
    t.Withdrawing i seq := by
  have failed : (t.sender i).sending = some (seq, .failed) := by
    rw [kept.told.senders.sending, stage]
    rfl
  have works := kept.works i
  cases worker : t.workers i with
  | none =>
    rw [worker] at works
    rw [works.1] at failed
    cases failed
  | some w =>
    rw [worker] at works
    rcases w with ⟨task, rest⟩
    cases rest with
    | done _ =>
      rw [works.1] at failed
      cases failed
    | ask r next =>
      rcases Link.nonempty_answer r with ⟨answer⟩
      have asked := (kept.asked worker answer).1.sending
      obtain rfl := Link.Request.of_underWay_failed (asked.symm.trans failed)
      exact ⟨task, next, worker⟩

theorem Kept.sending_of_withdrawing (kept : t.Kept) (withdrawing : t.Withdrawing i seq) :
    (Life.of seq t.history).stage = .failed i := by
  rcases withdrawing with ⟨task, next, worker⟩
  have failed := (kept.asked worker ()).1.sending
  exact Stage.of_sending ((kept.told.senders.sending i seq .failed).mp failed)

/-! ## Requests that are pending -/

theorem stage_of_forgotten {history : List Occurrence} (lawful : Lawful history)
    (mem : .exchanged i ⟨.forget seq, ()⟩ ∈ history) :
    (∃ earlier, Lawful earlier ∧ (Life.of seq earlier).stage = .failed i ∧ earlier ⊆ history) ∧
      4 ≤ (Life.of seq history).stage.rank := by
  rcases List.append_of_mem mem with ⟨later, earlier, rfl⟩
  have from_here := lawful.of_append
  have failed : (Life.of seq earlier).stage = .failed i := (from_here.fits rfl).stage
  have reached := lawful.rank_le seq
  rw [Life.of_move rfl, if_pos rfl, Life.stage_move] at reached
  refine ⟨⟨earlier, from_here.tail, failed, fun o mem => ?_⟩, reached⟩
  exact List.mem_append_right _ (List.mem_cons_of_mem _ mem)

/-- While the reader reads, these requests are pending: a response to them is expected, none has
come, and they could be written, or the thread is about to take them back. -/
theorem Kept.mem_pending (kept : t.Kept) (reading : t.connection.reading = true) :
    seq ∈ t.connection.pending ↔ Unanswered seq t.history ∧
      ∀ i r e, .exchanged i ⟨.write r, .error e⟩ ∈ t.history → r.seq = seq →
        t.Withdrawing i seq := by
  have lawful := kept.told.lawful
  have open_ : .ended ∉ t.history := by
    intro mem
    rw [kept.reading.mpr (.inl mem)] at reading
    cases reading
  rw [kept.told.table.pending]
  constructor
  · intro awaited
    refine ⟨(outstanding_of_awaited awaited).unanswered, ?_⟩
    rintro i r e mem rfl
    rcases stage_of_failed lawful mem with failed | withdrawn
    · exact kept.withdrawing failed
    · exact absurd awaited (not_awaited_of_withdrawn withdrawn)
  · rintro ⟨⟨since, i, before, happened, unanswered⟩, failures⟩
    apply awaited_of_outstanding lawful
    refine ⟨since, i, before, happened, fun o mem settles => ?_⟩
    have here : o ∈ t.history := by
      rw [happened]
      exact List.mem_append_left _ mem
    rcases settles with answers | ⟨j, rfl⟩ | rfl
    · exact unanswered o mem answers
    · have ⟨⟨earlier, _, failed, within⟩, reached⟩ := stage_of_forgotten lawful here
      rcases failed_of_stage failed with ⟨r, e, written, rfl⟩
      -- its thread would be taking it back a second time
      have again := kept.sending_of_withdrawing (failures j r e (within written) rfl)
      rw [again, Stage.rank] at reached
      omega
    · exact open_ here

/-- Responses reach exactly the requests they answer. -/
theorem Reachable.responses_matched (reachable : t.Reachable) :
    -- no number is registered twice or written twice
    (numbers Move.expects t.history).Nodup ∧ (numbers Move.writes t.history).Nodup ∧
    -- until the reader ends, the requests that were registered, not answered and not failed to be
    -- written are pending
    (t.connection.reading = true → ∀ seq, seq ∈ t.connection.pending ↔
      Unanswered seq t.history ∧
        ∀ i r e, .exchanged i ⟨.write r, .error e⟩ ∈ t.history → r.seq = seq →
          t.Withdrawing i seq) ∧
    -- a response is returned to the thread that wrote the request, and it is the first that came
    (∀ i seq r o earlier, o :: earlier <:+ t.history → o.Fetches i seq r →
      (∃ past, FirstResponse seq r past earlier) ∧
        ∃ request : Request, .exchanged i ⟨.write request, .ok ()⟩ ∈ earlier ∧
          request.seq = seq) ∧
    -- a response completes at most one request
    (∀ i seq r o earlier i' seq' r' o' earlier' past,
      o :: earlier <:+ t.history → o.Fetches i seq r → FirstResponse seq r past earlier →
      o' :: earlier' <:+ t.history → o'.Fetches i' seq' r' → FirstResponse seq' r' past earlier' →
      o :: earlier = o' :: earlier') ∧
    -- a message that answers no pending request completes none
    (∀ message unread, (∀ r, Message.ofJson? message = some (.response r) →
        ∀ seq ∈ t.connection.pending, (seq : Int) ≠ r.requestSeq) →
      ({ t.connection with unread }.deliver message).1.pending = t.connection.pending ∧
        ({ t.connection with unread }.deliver message).1.delivered = t.connection.delivered) ∧
    -- and one that does completes that request
    ∀ message unread r seq, Message.ofJson? message = some (.response r) →
      seq ∈ t.connection.pending → (seq : Int) = r.requestSeq →
      ∃ d, ({ t.connection with unread }.deliver message).1.answer? (.await seq) =
        some (some r, d) := by
  have kept := reachable.kept
  have lawful := kept.told.lawful
  have table := kept.told.table
  refine ⟨nodup_numbers passes_expects lawful, nodup_numbers passes_writes lawful,
    fun reading seq => kept.mem_pending reading, ?_, ?_, ?_, ?_⟩
  · intro i seq r o earlier within fetches
    have from_here := lawful.of_suffix within
    have fits := fits_of_fetches from_here fetches
    have arrived := congrArg Life.reply fits
    have written := congrArg Life.stage fits
    exact ⟨firstResponse from_here.tail (.inl arrived), written_of_stage written⟩
  · intro i seq r o earlier i' seq' r' o' earlier' past within fetches first within' fetches' first'
    have inner := (List.suffix_cons o earlier).trans within
    have inner' := (List.suffix_cons o' earlier').trans within'
    obtain rfl := FirstResponse.same_number inner inner' first first'
    exact fetched_once lawful within within' fetches fetches'
  · intro message unread unknown
    have agrees := Connection.deliver_agrees (c := { t.connection with unread }) unknown
    exact ⟨agrees.pending, agrees.delivered⟩
  · intro message unread r seq response pending number
    exact table.fetch?_response unread response pending number

/-- The bytes of a response to the first request. -/
def acknowledgement : Bytes :=
  Frame.wrap (Utf8.encode
    "\x7b\"type\":\"response\",\"request_seq\":1,\"success\":true,\"command\":\"\"\x7d".toList)

/-- The number of the request that a message answers well. -/
def answeredWell : Frame.Next → Option Int
  | .message message [] =>
    match Message.ofJson? message with
    | some (.response r) => if r.success then some r.requestSeq else none
    | _ => none
  | _ => none

theorem next_acknowledgement : ∃ message r,
    Frame.next false acknowledgement = .message message [] ∧
      Message.ofJson? message = some (.response r) ∧ r.requestSeq = 1 ∧ r.success = true := by
  have read : answeredWell (Frame.next false acknowledgement) = some 1 := by decide +kernel
  generalize Frame.next false acknowledgement = found at read
  unfold answeredWell at read
  split at read
  · next message =>
    split at read
    · next r response =>
      split at read
      · next success => exact ⟨message, r, rfl, response, Option.some.inj read, success⟩
      · cases read
    · cases read
  · cases read

/-- A thread asks for the frames of the target, and the response comes. -/
theorem Reachable.responses_matched_acknowledged : ∃ t : Traffic, t.Reachable ∧
    ∃ o earlier r, o :: earlier <:+ t.history ∧ o.Fetches 0 1 r ∧
      ∃ past, FirstResponse 1 r past earlier := by
  rcases next_acknowledgement with ⟨message, r, found, response, number, -⟩
  have run := Relation.ReflTransGen.single
    (@Step.begin (fun _ _ => True) initial 0 (.frames ⟨1⟩) default rfl trivial)
  have run := run.tail (.answer (i := 0) rfl rfl)
  have run := run.tail (.answer (i := 0) rfl rfl)
  have run := run.tail (@Step.free _ _ 0 _ (.write _) _ (.ok ()) rfl trivial)
  have run := run.tail (.arrive acknowledgement rfl)
  have came := (Reachable.responses_matched run).2.2.2.2.2.2 message [] r 1 response
    List.mem_cons_self number.symm
  rcases came with ⟨d, answered⟩
  have run := run.tail (.read rfl found)
  have run := run.tail (@Step.answer _ _ 0 _ (.await 1) _ _ _ rfl answered)
  exact ⟨_, run, _, _, r, List.suffix_rfl, .inl rfl,
    ((Reachable.responses_matched run).2.2.2.1 0 1 r _ _ List.suffix_rfl (.inl rfl)).1⟩

end Traffic
end NotebookKernel.Dap
