import NotebookKernel.Proofs.Dap.HangUp

/-!
What comes of a request is decided once.

A response is expected once, so there is one first response to a request. Once a response has come,
or none can come any more, nothing that happens later changes that: `Traffic.Orderly.lost` says that
a thread that was told of the end of the connection has missed no response.
-/

namespace NotebookKernel.Dap

/-- What came of the response, when that is decided. -/
def Reply.outcome : Reply → Option (Option Response)
  | arrived r | fetched r => some (some r)
  | dropped => some none
  | unexpected | awaited => none

section Histories

variable {history earlier past : List Occurrence} {seq i j : Nat} {r : Response}
  {outcome : Option Response}

/-! ## One expectation, one first response -/

theorem rank_of_expected (lawful : Lawful history)
    (within : .exchanged i ⟨.expect seq, ()⟩ :: earlier <:+ history) :
    2 ≤ (Life.of seq history).stage.rank := by
  rcases within with ⟨later, rfl⟩
  have reached := lawful.rank_le seq
  rw [Life.of_move rfl, if_pos rfl, Life.stage_move] at reached
  exact reached

/-- A response is expected once. -/
theorem expected_once {earlier' : List Occurrence} (lawful : Lawful history)
    (one : .exchanged i ⟨.expect seq, ()⟩ :: earlier <:+ history)
    (other : .exchanged j ⟨.expect seq, ()⟩ :: earlier' <:+ history) :
    Occurrence.exchanged i ⟨.expect seq, ()⟩ :: earlier =
      .exchanged j ⟨.expect seq, ()⟩ :: earlier' := by
  -- a number of which a response is expected is not just allocated
  have apart : ∀ {i j earlier earlier'}, .exchanged j ⟨.expect seq, ()⟩ :: earlier' <:+ history →
      ¬ .exchanged i ⟨.expect seq, ()⟩ :: earlier <:+ earlier' := by
    intro i j earlier earlier' later within
    have from_here := lawful.of_suffix later
    have reached := rank_of_expected from_here.tail within
    have fits : Life.of seq earlier' = ⟨.allocated j, .unexpected⟩ := from_here.fits rfl
    rw [fits, Stage.rank] at reached
    omega
  rcases List.suffix_or_suffix_of_suffix one other with within | within
  · rcases List.suffix_cons_iff.mp within with same | within
    · exact same
    · exact (apart other within).elim
  · rcases List.suffix_cons_iff.mp within with same | within
    · exact same.symm
    · exact (apart one within).elim

/-- What of a kind came last is one thing. -/
theorem last_of_kind (kind : Occurrence → Prop) {o p : Occurrence} {before : List Occurrence}
    (one : o :: earlier <:+ history) (other : p :: before <:+ history) (of_kind : kind o)
    (of_kind' : kind p) (none : ∀ q ∈ earlier, ¬ kind q) (none' : ∀ q ∈ before, ¬ kind q) :
    o = p ∧ earlier = before := by
  rcases List.suffix_or_suffix_of_suffix one other with within | within
  · rcases List.suffix_cons_iff.mp within with same | within
    · exact List.cons.inj same
    · exact absurd of_kind (none' o (within.subset List.mem_cons_self))
  · rcases List.suffix_cons_iff.mp within with same | within
    · rcases List.cons.inj same with ⟨rfl, rfl⟩
      exact ⟨rfl, rfl⟩
    · exact absurd of_kind' (none p (within.subset List.mem_cons_self))

/-- Between the first response and what was past when it was expected, there is no other. -/
theorem FirstResponse.split (lawful : Lawful history) (first : FirstResponse seq r past history)
    (expected : .exchanged i ⟨.expect seq, ()⟩ :: earlier <:+ history) :
    ∃ later message between,
      history = (later ++ .received message :: between) ++
        .exchanged i ⟨.expect seq, ()⟩ :: earlier ∧
      Message.ofJson? message = some (.response r) ∧ (seq : Int) = r.requestSeq ∧
        ∀ o ∈ between, ¬ o.Answers seq := by
  rcases first with ⟨⟨later, message, rfl, response⟩, number, between, j, before, rfl, none⟩
  have there : .exchanged j ⟨.expect seq, ()⟩ :: before <:+
      later ++ .received message :: (between ++ .exchanged j ⟨.expect seq, ()⟩ :: before) :=
    ⟨later ++ .received message :: between, by simp⟩
  have same := expected_once lawful expected there
  rw [← same]
  exact ⟨later, message, between, by simp, response, number, none⟩

/-- There is one first response to a request. -/
theorem FirstResponse.unique {r' : Response} {past' : List Occurrence} (lawful : Lawful history)
    (first : FirstResponse seq r past history) (also : FirstResponse seq r' past' history) :
    r = r' := by
  have expected : ∃ i before, .exchanged i ⟨.expect seq, ()⟩ :: before <:+ history := by
    rcases first with ⟨⟨later, message, rfl, -⟩, -, between, i, before, rfl, -⟩
    exact ⟨i, before, later ++ .received message :: between, by simp⟩
  rcases expected with ⟨i, before, expected⟩
  rcases first.split lawful expected with ⟨later, m, between, split, response, number, none⟩
  rcases also.split lawful expected with ⟨later', m', between', split', response', number', none'⟩
  have whole := List.append_cancel_right (split.symm.trans split')
  have same := last_of_kind (·.Answers seq) (List.suffix_append later _)
    (whole ▸ List.suffix_append later' _) ⟨m, r, rfl, response, number⟩
    ⟨m', r', rfl, response', number'⟩ none none'
  cases same.1
  cases response.symm.trans response'
  rfl

/-- A first response remains the first, whatever happens later. -/
theorem FirstResponse.later (first : FirstResponse seq r past earlier)
    (within : earlier <:+ history) : FirstResponse seq r past history := by
  rcases first with ⟨⟨since, message, rfl, response⟩, rest⟩
  rcases within with ⟨later, rfl⟩
  exact ⟨⟨later ++ since, message, (List.append_assoc ..).symm, response⟩, rest⟩

/-- It is so whatever was before. -/
theorem FirstResponse.beyond (first : FirstResponse seq r past history)
    (before : List Occurrence) : FirstResponse seq r (past ++ before) (history ++ before) := by
  rcases first with
    ⟨⟨later, message, rfl, response⟩, number, between, i, earliest, rfl, none⟩
  exact ⟨⟨later, message, by simp, response⟩, number, between, i, earliest ++ before, by simp,
    none⟩

/-- What came after a response was expected tells of the first response. -/
theorem FirstResponse.within {since before : List Occurrence} (lawful : Lawful (since ++ before))
    (first : FirstResponse seq r past (since ++ before))
    (expected : .exchanged i ⟨.expect seq, ()⟩ :: earlier <:+ since) :
    ∃ past, FirstResponse seq r past since := by
  rcases expected with ⟨front, rfl⟩
  have whole : (front ++ .exchanged i ⟨.expect seq, ()⟩ :: earlier) ++ before =
      front ++ .exchanged i ⟨.expect seq, ()⟩ :: (earlier ++ before) := by simp
  rw [whole] at lawful first
  rcases first.split lawful (List.suffix_append ..) with
    ⟨later, message, between, same, response, number, none⟩
  have same := List.append_cancel_right same
  subst same
  refine ⟨between ++ .exchanged i ⟨.expect seq, ()⟩ :: earlier, ⟨later, message, by simp, response⟩,
    number, between, i, earlier, rfl, none⟩

/-! ## Nothing undoes an outcome -/

theorem Reply.outcome_lapse {reply : Reply} (decided : reply.outcome = some outcome) :
    reply.lapse.outcome = some outcome := by
  cases reply <;> first | exact decided | cases decided

theorem Reply.outcome_arrive {reply : Reply} (decided : reply.outcome = some outcome)
    (r : Response) : (reply.arrive r).outcome = some outcome := by
  cases reply <;> first | exact decided | cases decided

theorem outcome_cons {o : Occurrence} (lawful : Lawful (o :: history))
    (decided : (Life.of seq history).reply.outcome = some outcome) :
    (Life.of seq (o :: history)).reply.outcome = some outcome := by
  rw [Life.of]
  cases o with
  | ended => exact Reply.outcome_lapse decided
  | died => exact decided
  | received message =>
    by_cases answers : (Occurrence.received message).Answers seq
    · rcases answers with ⟨_, r, ⟨⟩, response, same⟩
      rw [Life.after_of_answers response same]
      exact Reply.outcome_arrive decided r
    · rw [Life.after_of_not_answers answers]
      exact decided
  | exchanged i exchange =>
    rcases Life.after_exchanged (Life.of seq history) seq i exchange with
      ⟨move, found, after⟩ | ⟨-, after⟩
    · have fits := lawful.fits found
      rw [after]
      cases move with
      | allocate =>
        rw [show Life.of seq history = Life.blank from fits] at decided
        cases decided
      | expect =>
        rw [show Life.of seq history = ⟨.allocated i, .unexpected⟩ from fits] at decided
        cases decided
      | write succeeded => cases succeeded <;> exact decided
      | forget => exact Reply.outcome_lapse decided
      | wait response =>
        cases response with
        | none => exact decided
        | some r =>
          rw [show Life.of seq history = ⟨.written i, .arrived r⟩ from fits] at decided
          exact decided
    · rw [after]
      exact decided

theorem outcome_of_suffix (lawful : Lawful history) (within : earlier <:+ history)
    (decided : (Life.of seq earlier).reply.outcome = some outcome) :
    (Life.of seq history).reply.outcome = some outcome := by
  rcases within with ⟨later, rfl⟩
  induction later with
  | nil => exact decided
  | cons o later ih => exact outcome_cons lawful (ih lawful.tail)

/-- While a request is on its way, its response is awaited or decided, and not yet fetched. -/
theorem reply_on_the_way (lawful : Lawful history) (early : 2 ≤ (Life.of seq history).stage.rank)
    (late : (Life.of seq history).stage.rank ≤ 3) :
    (Life.of seq history).reply ≠ .unexpected ∧ ∀ r, (Life.of seq history).reply ≠ .fetched r := by
  induction history with
  | nil => cases early
  | cons o earlier ih =>
    have before := ih lawful.tail
    rw [Life.of] at early late ⊢
    cases o with
    | ended =>
      rcases before early late with ⟨expected, unfetched⟩
      change (Life.of seq earlier).reply.lapse ≠ _ ∧ ∀ r, (Life.of seq earlier).reply.lapse ≠ _
      cases reply : (Life.of seq earlier).reply <;> simp_all [Reply.lapse]
    | died => exact before early late
    | received message =>
      by_cases answers : (Occurrence.received message).Answers seq
      · rcases answers with ⟨_, r, ⟨⟩, response, same⟩
        rw [Life.after_of_answers response same] at early late ⊢
        rcases before early late with ⟨expected, unfetched⟩
        cases reply : (Life.of seq earlier).reply <;> simp_all [Reply.arrive]
      · rw [Life.after_of_not_answers answers] at early late ⊢
        exact before early late
    | exchanged i exchange =>
      rcases Life.after_exchanged (Life.of seq earlier) seq i exchange with
        ⟨move, found, after⟩ | ⟨-, after⟩
      · have fits := lawful.fits found
        rw [after, Life.stage_move] at early late
        rw [after]
        cases move with
        | allocate => simp [Move.target, Stage.rank] at early
        | expect => refine ⟨fun same => ?_, fun r same => ?_⟩ <;> cases same
        | write succeeded =>
          have stage : (Life.of seq earlier).stage = .expected i := fits
          rw [stage] at before
          have sent := before (Nat.le_refl 2) (Nat.le_succ 2)
          cases succeeded <;> exact sent
        | forget => simp [Move.target, Stage.rank] at late
        | wait response => simp [Move.target, Stage.rank] at late
      · rw [after] at early late ⊢
        exact before early late

/-- Only the end of the connection drops a request that was not withdrawn. -/
theorem ended_of_dropped (lawful : Lawful history)
    (dropped : (Life.of seq history).reply = .dropped)
    (standing : (Life.of seq history).stage ≠ .withdrawn) :
    ∃ since i before, history = since ++ .exchanged i ⟨.expect seq, ()⟩ :: before ∧
      .ended ∈ since := by
  have later : ∀ {o earlier},
      (∃ since i before, earlier = since ++ .exchanged i ⟨.expect seq, ()⟩ :: before ∧
        Occurrence.ended ∈ since) →
      ∃ since i before, o :: earlier = since ++ .exchanged i ⟨.expect seq, ()⟩ :: before ∧
        .ended ∈ since := by
    rintro o earlier ⟨since, i, before, rfl, ended⟩
    exact ⟨o :: since, i, before, rfl, List.mem_cons_of_mem o ended⟩
  induction history with
  | nil => cases dropped
  | cons o earlier ih =>
    have before := ih lawful.tail
    rw [Life.of] at dropped standing
    cases o with
    | ended =>
      cases reply : (Life.of seq earlier).reply with
      | awaited =>
        rcases outstanding_of_awaited reply with ⟨since, i, earliest, rfl, -⟩
        exact ⟨.ended :: since, i, earliest, rfl, List.mem_cons_self⟩
      | dropped => exact later (before reply standing)
      | _ =>
        change (Life.of seq earlier).reply.lapse = .dropped at dropped
        rw [reply] at dropped
        cases dropped
    | died => exact later (before dropped standing)
    | received message =>
      by_cases answers : (Occurrence.received message).Answers seq
      · rcases answers with ⟨_, r, ⟨⟩, response, same⟩
        rw [Life.after_of_answers response same] at dropped standing
        refine later (before ?_ standing)
        cases reply : (Life.of seq earlier).reply <;> simp_all [Reply.arrive]
      · rw [Life.after_of_not_answers answers] at dropped standing
        exact later (before dropped standing)
    | exchanged i exchange =>
      rcases Life.after_exchanged (Life.of seq earlier) seq i exchange with
        ⟨move, found, after⟩ | ⟨-, after⟩
      · have source := (lawful.fits found).stage
        rw [after] at dropped standing
        rw [Life.stage_move] at standing
        have stood : (Life.of seq earlier).stage ≠ .withdrawn := by
          rw [source]
          exact Move.source_ne_withdrawn
        refine later (before ?_ stood)
        cases move with
        | allocate => exact dropped
        | expect => cases dropped
        | write succeeded => cases succeeded <;> exact dropped
        | forget => exact absurd rfl standing
        | wait response =>
          cases response with
          | none => exact dropped
          | some r => cases dropped
      · rw [after] at dropped standing
        exact later (before dropped standing)

/-! ## Responses that cannot come any more -/

theorem Quiet.not_ended {message : Json} (quiet : Quiet history)
    (within : .received message :: past <:+ history) : .ended ∉ past := by
  rcases within with ⟨later, rfl⟩
  intro ended
  have behind := (List.pairwise_cons.mp (List.pairwise_append.mp quiet).2.1).1 .ended ended rfl
  rcases behind with ⟨i, exchange, same⟩
  cases same

theorem ended_mem_of_dropped (lawful : Lawful history)
    (dropped : (Life.of seq history).reply = .dropped)
    (standing : (Life.of seq history).stage ≠ .withdrawn) : .ended ∈ history := by
  rcases ended_of_dropped lawful dropped standing with ⟨since, i, before, rfl, ended⟩
  exact List.mem_append_left _ ended

/-- A response that comes while its request is on the way decides what comes of the request, unless
the request was dropped. -/
theorem outcome_of_response {message : Json} (lawful : Lawful past)
    (early : 2 ≤ (Life.of seq past).stage.rank) (late : (Life.of seq past).stage.rank ≤ 3)
    (response : Message.ofJson? message = some (.response r)) (number : (seq : Int) = r.requestSeq)
    (alive : (Life.of seq past).reply ≠ .dropped) :
    ∃ r', (Life.of seq (.received message :: past)).reply.outcome = some (some r') := by
  have reply := reply_on_the_way lawful early late
  rw [Life.of, Life.after_of_answers response number]
  cases here : (Life.of seq past).reply with
  | unexpected => exact absurd here reply.1
  | awaited => exact ⟨r, rfl⟩
  | arrived r' => exact ⟨r', rfl⟩
  | fetched r' => exact absurd here (reply.2 r')
  | dropped => exact absurd here alive

/-- A request that was dropped while its thread waited is never answered. -/
theorem FirstResponse.not_dropped {now : List Occurrence} (lawful : Lawful history)
    (quiet : Quiet history) (within : now <:+ history)
    (written : (Life.of seq now).stage = .written i) (dropped : (Life.of seq now).reply = .dropped)
    (first : FirstResponse seq r past history) : False := by
  rcases first with ⟨⟨later, message, happened, response⟩, number, unanswered⟩
  have came : .received message :: past <:+ history := ⟨later, happened.symm⟩
  have lawful_now := lawful.of_suffix within
  have unended := quiet.not_ended came
  have standing : (Life.of seq now).stage ≠ .withdrawn := by
    intro same
    rw [written] at same
    cases same
  have ended := ended_mem_of_dropped lawful_now dropped standing
  rcases List.suffix_or_suffix_of_suffix came within with before | after
  · -- the response was decided when it came, and then not by the end
    have past_now : past <:+ now := (List.suffix_cons _ past).trans before
    have lawful_past := lawful_now.of_suffix past_now
    have late : (Life.of seq past).stage.rank ≤ 3 := by
      rcases past_now with ⟨front, rfl⟩
      have reached := lawful_now.rank_le seq
      rw [written] at reached
      exact reached
    have early : 2 ≤ (Life.of seq past).stage.rank := by
      rcases unanswered with ⟨since, j, before, rfl, -⟩
      exact rank_of_expected lawful_past (List.suffix_append ..)
    have alive : (Life.of seq past).reply ≠ .dropped := by
      intro gone
      refine unended (ended_mem_of_dropped lawful_past gone fun same => ?_)
      rw [same, Stage.rank] at late
      omega
    rcases outcome_of_response lawful_past early late response number alive with ⟨r', answered⟩
    have decided := outcome_of_suffix lawful_now before answered
    rw [dropped] at decided
    cases decided
  · rcases List.suffix_cons_iff.mp after with rfl | after
    · rcases List.mem_cons.mp ended with same | ended
      · cases same
      · exact unended ended
    · exact unended (after.subset ended)

end Histories

namespace Traffic

variable {t : Traffic} {d : Connection} {i seq : Nat} {x : Exchange Link} {now : List Occurrence}

/-- A thread that waited and finds that nobody expects its response: the response was dropped. -/
theorem Kept.dropped_of_fetch? (kept : t.Kept)
    (written : (Life.of seq t.history).stage = .written i)
    (fetched : t.connection.fetch? seq = some (none, d)) :
    (Life.of seq t.history).reply = .dropped := by
  have late : (Life.of seq t.history).stage.rank = 3 := by
    rw [written]
    rfl
  have sent := reply_on_the_way kept.told.lawful (late ▸ Nat.le_succ 2) (Nat.le_of_eq late)
  cases reply : (Life.of seq t.history).reply with
  | unexpected => exact absurd reply sent.1
  | awaited =>
    have pending := (kept.told.table.pending seq).mpr reply
    cases (kept.fetch?_of_pending pending).symm.trans fetched
  | arrived r =>
    have delivered : t.connection.delivered.lookup seq = some r := by
      rw [kept.told.table.delivered, reply]
      rfl
    rw [Connection.fetch?, delivered] at fetched
    cases fetched
  | fetched r => exact absurd reply (sent.2 r)
  | dropped => rfl

/-- When a thread is told that a response cannot come any more, the response has been dropped. -/
theorem Orderly.dropped_of_lost (orderly : t.Orderly) (within : .exchanged i x :: now <:+ t.history)
    (lost : x = ⟨.await seq, none⟩ ∨ x = ⟨.awaitInTime seq, .closed⟩) :
    (Life.of seq now).stage = .written i ∧ (Life.of seq now).reply = .dropped := by
  rcases orderly.moment within with ⟨u, v, before, step, rfl, happened⟩
  have kept := before.reachable.kept
  have told : ∀ {d}, u.AwaitsResponse i seq → u.connection.fetch? seq = some (none, d) →
      (Life.of seq u.history).stage = .written i ∧ (Life.of seq u.history).reply = .dropped := by
    intro d awaits fetched
    have written := kept.written_of_awaits awaits
    exact ⟨written, kept.dropped_of_fetch? written fetched⟩
  cases step with
  | begin | finish | arrive => exact absurd happened.symm (List.cons_ne_self _ _)
  | read | fail | die | «break» => cases happened
  | @answer j task r next answer d worker answered =>
    cases happened
    rcases lost with same | same
    · cases same
      exact told ⟨task, .inl ⟨next, worker⟩⟩ answered
    · cases same
      rw [Connection.answer?, Option.map_eq_some_iff] at answered
      rcases answered with ⟨⟨response, e⟩, fetched, same⟩
      cases response with
      | none => exact told ⟨task, .inr ⟨next, worker⟩⟩ fetched
      | some r => cases same
  | @free j task r next answer worker free =>
    cases happened
    rcases lost with same | same <;> cases same <;> cases free

/-- Who is told that a response cannot come any more has missed none: the connection has ended since
the response was expected. -/
theorem Orderly.lost (orderly : t.Orderly) (within : .exchanged i x :: now <:+ t.history)
    (lost : x = ⟨.await seq, none⟩ ∨ x = ⟨.awaitInTime seq, .closed⟩) :
    (∃ since j before, now = since ++ .exchanged j ⟨.expect seq, ()⟩ :: before ∧ .ended ∈ since) ∧
      ∀ r past, ¬ FirstResponse seq r past t.history := by
  rcases orderly.dropped_of_lost within lost with ⟨written, dropped⟩
  have reachable := orderly.reachable
  have lawful := reachable.kept.told.lawful
  have inner := (List.suffix_cons _ now).trans within
  have standing : (Life.of seq now).stage ≠ .withdrawn := by
    intro same
    rw [written] at same
    cases same
  refine ⟨ended_of_dropped (lawful.of_suffix inner) dropped standing, fun r past first => ?_⟩
  exact first.not_dropped lawful reachable.quiet inner written dropped

end Traffic
end NotebookKernel.Dap
