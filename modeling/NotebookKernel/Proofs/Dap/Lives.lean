import NotebookKernel.Proofs.Dap.Traffic

/-!
The life of a sequence number.

What has happened tells for every number how far the request with it has got and what came of its
response. `Life.Fits` says which move may come next; a history in which every move fits is `Lawful`.
Numbers only go forward in a lawful history, so a request is written once, its response is fetched
once, and what is fetched is the first response that came after it was expected.
-/

namespace NotebookKernel.Dap

/-- What an exchange does with a sequence number. -/
inductive Move where
  | allocate
  | expect
  | write (succeeded : Bool)
  | forget
  /-- A wait for the response ends. -/
  | wait (response : Option Response)

/-- The number that an exchange is about, and what it does with it. -/
def move? : Exchange Link → Option (Nat × Move)
  | ⟨.allocate, seq⟩ => some (seq, .allocate)
  | ⟨.expect seq, _⟩ => some (seq, .expect)
  | ⟨.write r, .ok _⟩ => some (r.seq, .write true)
  | ⟨.write r, .error _⟩ => some (r.seq, .write false)
  | ⟨.forget seq, _⟩ => some (seq, .forget)
  | ⟨.await seq, response⟩ => some (seq, .wait response)
  | ⟨.awaitInTime seq, .arrived r⟩ => some (seq, .wait (some r))
  | ⟨.awaitInTime seq, _⟩ => some (seq, .wait none)
  | _ => none

/-- How far a request has got, and the thread that is at it. -/
inductive Stage where
  | fresh
  | allocated (i : Nat)
  | expected (i : Nat)
  | failed (i : Nat)
  | written (i : Nat)
  | withdrawn
  | finished
  deriving DecidableEq

/-- What came of the response. -/
inductive Reply where
  | unexpected
  | awaited
  | arrived (r : Response)
  | fetched (r : Response)
  | dropped

/-- A sequence number at one moment. -/
structure Life where
  stage : Stage
  reply : Reply

namespace Stage

/-- The request is being sent. -/
def sending : Stage → Option (Nat × Progress)
  | allocated i => some (i, .allocated)
  | expected i => some (i, .expected)
  | failed i => some (i, .failed)
  | _ => none

/-- How far that is. -/
def rank : Stage → Nat
  | fresh => 0
  | allocated _ => 1
  | expected _ => 2
  | failed _ | written _ => 3
  | withdrawn | finished => 4

end Stage

namespace Move

/-- The stage that a move of a thread comes after. -/
def source (i : Nat) : Move → Stage
  | allocate => .fresh
  | expect => .allocated i
  | write _ => .expected i
  | forget => .failed i
  | wait _ => .written i

/-- The stage that it leads to. -/
def target (i : Nat) : Move → Stage
  | allocate => .allocated i
  | expect => .expected i
  | write true => .written i
  | write false => .failed i
  | forget => .withdrawn
  | wait _ => .finished

theorem rank_source (move : Move) (i : Nat) :
    (move.source i).rank < (move.target i).rank := by
  cases move with
  | allocate => exact Nat.lt_succ_self 0
  | expect => exact Nat.lt_succ_self 1
  | write succeeded => cases succeeded <;> exact Nat.lt_succ_self 2
  | forget => exact Nat.lt_succ_self 3
  | wait response => exact Nat.lt_succ_self 3

section Inversion

variable {move : Move} {i j : Nat}

theorem of_target_written (h : move.target i = .written j) : move = .write true ∧ i = j := by
  cases move with
  | write succeeded => cases succeeded <;> cases h; exact ⟨rfl, rfl⟩
  | _ => cases h

theorem of_target_failed (h : move.target i = .failed j) : move = .write false ∧ i = j := by
  cases move with
  | write succeeded => cases succeeded <;> cases h; exact ⟨rfl, rfl⟩
  | _ => cases h

theorem of_target_withdrawn (h : move.target i = .withdrawn) : move = .forget := by
  cases move with
  | forget => rfl
  | write succeeded => cases succeeded <;> cases h
  | _ => cases h

theorem of_source_failed (h : move.source i = .failed j) : move = .forget ∧ i = j := by
  cases move <;> cases h
  exact ⟨rfl, rfl⟩

theorem of_source_fresh (h : move.source i = .fresh) : move = .allocate := by
  cases move <;> cases h
  rfl

theorem of_rank_target (early : (move.target i).rank ≤ 1) : move = .allocate := by
  cases move with
  | allocate => rfl
  | write succeeded => cases succeeded <;> simp [target, Stage.rank] at early
  | _ => simp [target, Stage.rank] at early

theorem source_ne_withdrawn : move.source i ≠ .withdrawn := by
  cases move <;> exact fun h => nomatch h

end Inversion
end Move

namespace Reply

/-- A response came. -/
def arrive (r : Response) : Reply → Reply
  | awaited => arrived r
  | reply => reply

/-- No response is expected any more. -/
def lapse : Reply → Reply
  | awaited => dropped
  | reply => reply

/-- The response that was not fetched yet. -/
def waiting : Reply → Option Response
  | arrived r => some r
  | _ => none

end Reply

namespace Life

/-- Before the number is used. -/
def blank : Life :=
  ⟨.fresh, .unexpected⟩

/-- A thread makes a move. -/
def move (life : Life) (i : Nat) : Move → Life
  | .allocate => { life with stage := .allocated i }
  | .expect => ⟨.expected i, .awaited⟩
  | .write true => { life with stage := .written i }
  | .write false => { life with stage := .failed i }
  | .forget => ⟨.withdrawn, life.reply.lapse⟩
  | .wait none => { life with stage := .finished }
  | .wait (some r) => ⟨.finished, .fetched r⟩

/-- The moves of a thread that may come next. -/
def Fits (life : Life) (i : Nat) : Move → Prop
  | .allocate => life = blank
  | .expect => life = ⟨.allocated i, .unexpected⟩
  | .write _ => life.stage = .expected i
  | .forget => life.stage = .failed i
  | .wait none => life.stage = .written i
  | .wait (some r) => life = ⟨.written i, .arrived r⟩

/-- Something happened. -/
def after (seq : Nat) (life : Life) : Occurrence → Life
  | .exchanged i exchange =>
    match move? exchange with
    | some (n, move) => if n = seq then life.move i move else life
    | none => life
  | .received message =>
    match Message.ofJson? message with
    | some (.response r) =>
      if (seq : Int) = r.requestSeq then { life with reply := life.reply.arrive r } else life
    | _ => life
  | .ended => { life with reply := life.reply.lapse }
  -- Whoever waits for a response goes on waiting.
  | .died => life

/-- What has happened to a number. -/
def of (seq : Nat) : List Occurrence → Life
  | [] => blank
  | occurrence :: earlier => (of seq earlier).after seq occurrence

theorem Fits.stage {life : Life} {i : Nat} {move : Move} (fits : life.Fits i move) :
    life.stage = move.source i := by
  cases move with
  | allocate => exact congrArg Life.stage fits
  | expect => exact congrArg Life.stage fits
  | write succeeded => exact fits
  | forget => exact fits
  | wait response =>
    cases response with
    | none => exact fits
    | some r => exact congrArg Life.stage fits

theorem stage_move (life : Life) (i : Nat) (move : Move) :
    (life.move i move).stage = move.target i := by
  cases move with
  | write succeeded => cases succeeded <;> rfl
  | wait response => cases response <;> rfl
  | _ => rfl

theorem Fits.rank_lt {life : Life} {i : Nat} {move : Move} (fits : life.Fits i move) :
    life.stage.rank < (life.move i move).stage.rank := by
  rw [fits.stage, stage_move]
  exact move.rank_source i

end Life

/-- Every move fits the number as it was. -/
inductive Lawful : List Occurrence → Prop
  | nil : Lawful []
  | cons {occurrence : Occurrence} {earlier : List Occurrence} :
    Lawful earlier →
      (∀ i exchange seq move, occurrence = .exchanged i exchange →
        move? exchange = some (seq, move) → (Life.of seq earlier).Fits i move) →
      Lawful (occurrence :: earlier)

namespace Lawful

variable {occurrence : Occurrence} {earlier later : List Occurrence} {seq : Nat}

theorem tail (lawful : Lawful (occurrence :: earlier)) : Lawful earlier := by
  cases lawful with
  | cons before _ => exact before

theorem fits {i : Nat} {exchange : Exchange Link} {move : Move}
    (lawful : Lawful (.exchanged i exchange :: earlier))
    (found : move? exchange = some (seq, move)) : (Life.of seq earlier).Fits i move := by
  cases lawful with
  | cons _ fits => exact fits i exchange seq move rfl found

/-- A number goes forward. -/
theorem rank_le_cons (lawful : Lawful (occurrence :: earlier)) :
    (Life.of seq earlier).stage.rank ≤ (Life.of seq (occurrence :: earlier)).stage.rank := by
  rw [Life.of]
  cases occurrence with
  | ended | died => exact Nat.le_refl _
  | received message =>
    rw [Life.after]
    split
    · split <;> exact Nat.le_refl _
    · exact Nat.le_refl _
  | exchanged i exchange =>
    rw [Life.after]
    split
    · next n move found =>
      split
      · next same =>
        subst same
        exact Nat.le_of_lt (lawful.fits found).rank_lt
      · exact Nat.le_refl _
    · exact Nat.le_refl _

/-- Nothing comes of a response before one is expected. -/
theorem reply_of_rank (lawful : Lawful earlier) (early : (Life.of seq earlier).stage.rank ≤ 1) :
    (Life.of seq earlier).reply = .unexpected := by
  induction earlier with
  | nil => rfl
  | cons o earlier ih =>
    have before := ih lawful.tail (Nat.le_trans lawful.rank_le_cons early)
    rw [Life.of] at early ⊢
    cases o with
    | ended =>
      change (Life.of seq earlier).reply.lapse = .unexpected
      rw [before]
      rfl
    | died => exact before
    | received message =>
      rw [Life.after]
      split
      · split
        · change (Life.of seq earlier).reply.arrive _ = .unexpected
          rw [before]
          rfl
        · exact before
      · exact before
    | exchanged i exchange =>
      rw [Life.after] at early ⊢
      split
      · next n move found =>
        rw [found] at early
        split
        · next same =>
          -- only an allocation leads to so early a stage
          replace early : ((Life.of seq earlier).move i move).stage.rank ≤ 1 := by
            simpa only [if_pos same] using early
          rw [Life.stage_move] at early
          rw [Move.of_rank_target early]
          exact before
        · exact before
      · exact before

theorem of_append (lawful : Lawful (later ++ earlier)) : Lawful earlier := by
  induction later with
  | nil => exact lawful
  | cons _ _ ih => exact ih lawful.tail

theorem of_suffix (lawful : Lawful later) (within : earlier <:+ later) : Lawful earlier := by
  rcases within with ⟨since, rfl⟩
  exact lawful.of_append

theorem rank_le (lawful : Lawful (later ++ earlier)) (seq : Nat) :
    (Life.of seq earlier).stage.rank ≤ (Life.of seq (later ++ earlier)).stage.rank := by
  induction later with
  | nil => exact Nat.le_refl _
  | cons occurrence rest ih => exact Nat.le_trans (ih lawful.tail) (rank_le_cons lawful)

end Lawful

/-! ## What the moves are -/

section Moves

variable {exchange : Exchange Link} {seq : Nat}

theorem expect_of_move? (h : move? exchange = some (seq, .expect)) :
    exchange = ⟨.expect seq, ()⟩ := by
  obtain ⟨r, answer⟩ := exchange
  cases r with
  | expect n => cases h; rfl
  | write r => cases answer <;> cases h
  | awaitInTime n => cases answer <;> cases h
  | _ => cases h

theorem forget_of_move? (h : move? exchange = some (seq, .forget)) :
    exchange = ⟨.forget seq, ()⟩ := by
  obtain ⟨r, answer⟩ := exchange
  cases r with
  | forget n => cases h; rfl
  | write r => cases answer <;> cases h
  | awaitInTime n => cases answer <;> cases h
  | _ => cases h

theorem written_of_move? (h : move? exchange = some (seq, .write true)) :
    ∃ r : Request, exchange = ⟨.write r, .ok ()⟩ ∧ r.seq = seq := by
  obtain ⟨r, answer⟩ := exchange
  cases r with
  | write r =>
    cases answer with
    | ok _ => cases h; exact ⟨r, rfl, rfl⟩
    | error e => cases h
  | awaitInTime n => cases answer <;> cases h
  | _ => cases h

theorem failed_of_move? (h : move? exchange = some (seq, .write false)) :
    ∃ (r : Request) (e : Error), exchange = ⟨.write r, .error e⟩ ∧ r.seq = seq := by
  obtain ⟨r, answer⟩ := exchange
  cases r with
  | write r =>
    cases answer with
    | ok _ => cases h
    | error e => cases h; exact ⟨r, e, rfl, rfl⟩
  | awaitInTime n => cases answer <;> cases h
  | _ => cases h

end Moves

/-! ## What a history tells -/

namespace Occurrence

/-- A response to the request with a given number. -/
def Answers (seq : Nat) (o : Occurrence) : Prop :=
  ∃ message r, o = .received message ∧ Message.ofJson? message = some (.response r) ∧
    (seq : Int) = r.requestSeq

/-- After it, no response to that request is expected. -/
def Settles (seq : Nat) (o : Occurrence) : Prop :=
  o.Answers seq ∨ (∃ i, o = .exchanged i ⟨.forget seq, ()⟩) ∨ o = .ended

end Occurrence

/-- A response was expected, and nothing of some kind has happened since. -/
def ExpectedSince (ending : Occurrence → Prop) (seq : Nat) (history : List Occurrence) : Prop :=
  ∃ since i before, history = since ++ .exchanged i ⟨.expect seq, ()⟩ :: before ∧
    ∀ o ∈ since, ¬ ending o

/-- A response was expected, and none has come. -/
def Unanswered (seq : Nat) (history : List Occurrence) : Prop :=
  ExpectedSince (·.Answers seq) seq history

/-- A response was expected, and nothing has ended that. -/
def Outstanding (seq : Nat) (history : List Occurrence) : Prop :=
  ExpectedSince (·.Settles seq) seq history

/-- The first response to a request that came after it was expected, with what was past then. -/
def FirstResponse (seq : Nat) (r : Response) (past history : List Occurrence) : Prop :=
  (∃ since message, history = since ++ .received message :: past ∧
    Message.ofJson? message = some (.response r)) ∧
    (seq : Int) = r.requestSeq ∧ Unanswered seq past

/-! ## What a move does to a number -/

namespace Life

variable {life : Life} {seq i : Nat} {message : Json} {exchange : Exchange Link}

theorem after_of_answers {r : Response} (response : Message.ofJson? message = some (.response r))
    (same : (seq : Int) = r.requestSeq) :
    life.after seq (.received message) = { life with reply := life.reply.arrive r } := by
  simp only [after, response, if_pos same]

theorem after_of_not_answers (other : ¬ (Occurrence.received message).Answers seq) :
    life.after seq (.received message) = life := by
  rw [after]
  split
  · next r response => exact if_neg fun same => other ⟨message, r, rfl, response, same⟩
  · rfl

/-- An exchange is about the number, or it leaves it as it is. -/
theorem after_exchanged (life : Life) (seq i : Nat) (exchange : Exchange Link) :
    (∃ move, move? exchange = some (seq, move) ∧
        life.after seq (.exchanged i exchange) = life.move i move) ∨
      (∀ move, move? exchange ≠ some (seq, move)) ∧
        life.after seq (.exchanged i exchange) = life := by
  rw [after]
  cases found : move? exchange with
  | none => exact .inr ⟨fun _ same => (nomatch same), rfl⟩
  | some what =>
    obtain ⟨n, move⟩ := what
    by_cases same : n = seq
    · subst same
      exact .inl ⟨move, rfl, if_pos rfl⟩
    · refine .inr ⟨fun other h => same (Prod.mk.inj (Option.some.inj h)).1, if_neg same⟩

end Life

theorem Reply.arrive_ne_awaited (reply : Reply) (r : Response) : reply.arrive r ≠ .awaited := by
  cases reply <;> exact fun same => nomatch same

theorem Reply.lapse_ne_awaited (reply : Reply) : reply.lapse ≠ .awaited := by
  cases reply <;> exact fun same => nomatch same

theorem Reply.arrive_of_ne_awaited {reply : Reply} {r : Response} (nobody : reply ≠ .awaited) :
    reply.arrive r = reply := by
  cases reply with
  | awaited => exact absurd rfl nobody
  | _ => rfl

theorem Reply.waiting_lapse (reply : Reply) : reply.lapse.waiting = reply.waiting := by
  cases reply <;> rfl

theorem Reply.of_waiting {reply : Reply} {r : Response} (waiting : reply.waiting = some r) :
    reply = .arrived r := by
  cases reply <;> cases waiting
  rfl

theorem Reply.of_lapse {reply : Reply} {r : Response}
    (came : reply.lapse = .arrived r ∨ reply.lapse = .fetched r) :
    reply = .arrived r ∨ reply = .fetched r := by
  cases reply with
  | awaited => rcases came with came | came <;> cases came
  | _ => exact came

theorem Reply.of_arrive {reply : Reply} {first r : Response}
    (came : reply.arrive first = .arrived r ∨ reply.arrive first = .fetched r) :
    reply = .awaited ∧ first = r ∨ reply = .arrived r ∨ reply = .fetched r := by
  cases reply with
  | awaited =>
    rcases came with came | came <;> cases came
    exact .inl ⟨rfl, rfl⟩
  | _ => exact .inr came

section Histories

variable {seq : Nat} {history : List Occurrence}

theorem Outstanding.cons {o : Occurrence} (outstanding : Outstanding seq history)
    (going : ¬ o.Settles seq) : Outstanding seq (o :: history) := by
  obtain ⟨since, i, before, rfl, unsettled⟩ := outstanding
  refine ⟨o :: since, i, before, rfl, fun other mem => ?_⟩
  rcases List.mem_cons.mp mem with rfl | mem
  · exact going
  · exact unsettled other mem

theorem Outstanding.unanswered (outstanding : Outstanding seq history) :
    Unanswered seq history := by
  rcases outstanding with ⟨since, i, before, happened, unsettled⟩
  exact ⟨since, i, before, happened, fun o mem answers => unsettled o mem (.inl answers)⟩

theorem FirstResponse.cons {o : Occurrence} {r : Response} {past : List Occurrence}
    (first : FirstResponse seq r past history) : FirstResponse seq r past (o :: history) := by
  rcases first with ⟨⟨since, message, rfl, response⟩, rest⟩
  exact ⟨⟨o :: since, message, rfl, response⟩, rest⟩

/-- What ends the wait for a response. -/
theorem not_settles_of_received {message : Json}
    (other : ¬ (Occurrence.received message).Answers seq) :
    ¬ (Occurrence.received message).Settles seq := by
  rintro (answers | ⟨_, same⟩ | same)
  · exact other answers
  · cases same
  · cases same

theorem not_settles_of_exchanged {i : Nat} {exchange : Exchange Link}
    (other : exchange ≠ ⟨.forget seq, ()⟩) :
    ¬ (Occurrence.exchanged i exchange).Settles seq := by
  rintro (⟨_, _, same, -⟩ | ⟨_, same⟩ | same)
  · cases same
  · exact other (Occurrence.exchanged.inj same).2
  · cases same

theorem not_settles_of_died : ¬ Occurrence.died.Settles seq := by
  rintro (⟨_, _, same, -⟩ | ⟨_, same⟩ | same) <;> cases same

/-- A response is awaited from when it is expected until something ends that. -/
theorem outstanding_of_awaited (awaited : (Life.of seq history).reply = .awaited) :
    Outstanding seq history := by
  induction history with
  | nil => cases awaited
  | cons o earlier ih =>
    rw [Life.of] at awaited
    cases o with
    | ended => exact absurd awaited (Reply.lapse_ne_awaited _)
    | died => exact (ih awaited).cons not_settles_of_died
    | received message =>
      by_cases answers : (Occurrence.received message).Answers seq
      · obtain ⟨_, r, ⟨⟩, response, same⟩ := answers
        rw [Life.after_of_answers response same] at awaited
        exact absurd awaited (Reply.arrive_ne_awaited _ _)
      · rw [Life.after_of_not_answers answers] at awaited
        exact (ih awaited).cons (not_settles_of_received answers)
    | exchanged i exchange =>
      obtain ⟨move, found, after⟩ | ⟨others, after⟩ := Life.after_exchanged (Life.of seq earlier)
        seq i exchange
      · rw [after] at awaited
        have going : move ≠ .forget → ¬ (Occurrence.exchanged i exchange).Settles seq := by
          intro other
          refine not_settles_of_exchanged ?_
          rintro rfl
          cases found
          exact other rfl
        cases move with
        | expect =>
          obtain rfl := expect_of_move? found
          exact ⟨[], i, earlier, rfl, fun _ mem => nomatch mem⟩
        | forget => exact absurd awaited (Reply.lapse_ne_awaited _)
        | allocate => exact (ih awaited).cons (going fun same => nomatch same)
        | write succeeded =>
          cases succeeded <;> exact (ih awaited).cons (going fun same => nomatch same)
        | wait response =>
          cases response with
          | none => exact (ih awaited).cons (going fun same => nomatch same)
          | some r => cases awaited
      · rw [after] at awaited
        refine (ih awaited).cons (not_settles_of_exchanged ?_)
        rintro rfl
        exact others .forget rfl

theorem awaited_cons {o : Occurrence} (lawful : Lawful (o :: history))
    (awaited : (Life.of seq history).reply = .awaited) (going : ¬ o.Settles seq) :
    (Life.of seq (o :: history)).reply = .awaited := by
  rw [Life.of]
  cases o with
  | ended => exact absurd (.inr (.inr rfl)) going
  | died => exact awaited
  | received message =>
    rw [Life.after_of_not_answers fun answers => going (.inl answers)]
    exact awaited
  | exchanged j exchange =>
    obtain ⟨move, found, after⟩ | ⟨-, after⟩ := Life.after_exchanged (Life.of seq history) seq j
      exchange
    · rw [after]
      cases move with
      | expect => rfl
      | forget =>
        obtain rfl := forget_of_move? found
        exact absurd (.inr (.inl ⟨j, rfl⟩)) going
      | allocate => exact awaited
      | write succeeded => cases succeeded <;> exact awaited
      | wait response =>
        cases response with
        | none => exact awaited
        | some r =>
          have arrived : Life.of seq history = ⟨.written j, .arrived r⟩ := lawful.fits found
          rw [arrived] at awaited
          cases awaited
    · rw [after]
      exact awaited

/-- The converse, in a lawful history. -/
theorem awaited_of_outstanding (lawful : Lawful history) (outstanding : Outstanding seq history) :
    (Life.of seq history).reply = .awaited := by
  obtain ⟨since, i, before, rfl, unsettled⟩ := outstanding
  induction since with
  | nil =>
    change ((Life.of seq before).after seq _).reply = .awaited
    simp only [Life.after, move?, if_true, Life.move]
  | cons o since ih =>
    refine awaited_cons lawful (ih ?_ lawful.tail) (unsettled o List.mem_cons_self)
    exact fun other mem => unsettled other (List.mem_cons_of_mem _ mem)

/-- What has arrived, and was perhaps fetched, is the first response. -/
theorem firstResponse (lawful : Lawful history) {r : Response}
    (arrived : (Life.of seq history).reply = .arrived r ∨
      (Life.of seq history).reply = .fetched r) :
    ∃ past, FirstResponse seq r past history := by
  have later : ∀ {o earlier}, (∃ past, FirstResponse seq r past earlier) →
      ∃ past, FirstResponse seq r past (o :: earlier) :=
    fun ⟨past, first⟩ => ⟨past, first.cons⟩
  induction history with
  | nil => rcases arrived with arrived | arrived <;> cases arrived
  | cons o earlier ih =>
    have before := ih lawful.tail
    rw [Life.of] at arrived
    cases o with
    | ended => exact later (before (Reply.of_lapse arrived))
    | died => exact later (before arrived)
    | received message =>
      by_cases answers : (Occurrence.received message).Answers seq
      · obtain ⟨_, first, ⟨⟩, response, same⟩ := answers
        rw [Life.after_of_answers response same] at arrived
        rcases Reply.of_arrive arrived with ⟨awaited, rfl⟩ | earlierArrived
        · have outstanding := outstanding_of_awaited awaited
          exact ⟨earlier, ⟨[], message, rfl, response⟩, same, outstanding.unanswered⟩
        · exact later (before earlierArrived)
      · rw [Life.after_of_not_answers answers] at arrived
        exact later (before arrived)
    | exchanged i exchange =>
      obtain ⟨move, found, after⟩ | ⟨-, after⟩ := Life.after_exchanged (Life.of seq earlier) seq i
        exchange
      · rw [after] at arrived
        refine later (before ?_)
        cases move with
        | expect => rcases arrived with arrived | arrived <;> cases arrived
        | forget => exact Reply.of_lapse arrived
        | allocate => exact arrived
        | write succeeded => cases succeeded <;> exact arrived
        | wait response =>
          cases response with
          | none => exact arrived
          | some fetched =>
            have fits : Life.of seq earlier = ⟨.written i, .arrived fetched⟩ := lawful.fits found
            rcases arrived with arrived | arrived <;> cases arrived
            exact .inl (congrArg Life.reply fits)
      · rw [after] at arrived
        exact later (before arrived)

/-- No response is awaited to a request that was withdrawn. -/
theorem not_awaited_of_withdrawn (stage : (Life.of seq history).stage = .withdrawn) :
    (Life.of seq history).reply ≠ .awaited := by
  induction history with
  | nil => cases stage
  | cons o earlier ih =>
    rw [Life.of] at stage ⊢
    cases o with
    | ended => exact Reply.lapse_ne_awaited _
    | died => exact ih stage
    | received message =>
      by_cases answers : (Occurrence.received message).Answers seq
      · rcases answers with ⟨_, r, ⟨⟩, response, same⟩
        rw [Life.after_of_answers response same]
        exact Reply.arrive_ne_awaited _ _
      · rw [Life.after_of_not_answers answers] at stage ⊢
        exact ih stage
    | exchanged i exchange =>
      obtain ⟨move, -, after⟩ | ⟨-, after⟩ := Life.after_exchanged (Life.of seq earlier) seq i
        exchange
      · rw [after, Life.stage_move] at stage
        rw [after, Move.of_target_withdrawn stage]
        exact Reply.lapse_ne_awaited _
      · rw [after] at stage ⊢
        exact ih stage

/-! ## Requests are written once and answered once -/

/-- The numbers that moves of some kind were about. -/
def numbers (kind : Move → Bool) : List Occurrence → List Nat
  | .exchanged _ exchange :: earlier =>
    match move? exchange with
    | some (seq, move) => if kind move then seq :: numbers kind earlier else numbers kind earlier
    | none => numbers kind earlier
  | _ :: earlier => numbers kind earlier
  | [] => []

/-- Moves of this kind take a number past a certain point. -/
def Passes (kind : Move → Bool) (rank : Nat) : Prop :=
  ∀ (life : Life) (i : Nat) (move : Move), kind move = true → life.Fits i move →
    life.stage.rank < rank ∧ rank ≤ (life.move i move).stage.rank

section Passing

variable {kind : Move → Bool} {rank : Nat}

theorem rank_of_mem_numbers (passes : Passes kind rank) (lawful : Lawful history)
    (mem : seq ∈ numbers kind history) : rank ≤ (Life.of seq history).stage.rank := by
  induction history with
  | nil => cases mem
  | cons o earlier ih =>
    have before : seq ∈ numbers kind earlier → rank ≤ (Life.of seq (o :: earlier)).stage.rank :=
      fun mem => Nat.le_trans (ih lawful.tail mem) lawful.rank_le_cons
    cases o with
    | received | ended | died => exact before mem
    | exchanged i exchange =>
      rw [numbers] at mem
      split at mem
      · next n move found =>
        split at mem
        · next picked =>
          rcases List.mem_cons.mp mem with rfl | mem
          · have reached := (passes _ i move picked (lawful.fits found)).2
            rw [Life.of, Life.after, found]
            simpa using reached
          · exact before mem
        · exact before mem
      · exact before mem

/-- A number passes a point once. -/
theorem nodup_numbers (passes : Passes kind rank) (lawful : Lawful history) :
    (numbers kind history).Nodup := by
  induction history with
  | nil => exact List.nodup_nil
  | cons o earlier ih =>
    cases o with
    | received | ended | died => exact ih lawful.tail
    | exchanged i exchange =>
      rw [numbers]
      split
      · next n move found =>
        split
        · next picked =>
          refine List.nodup_cons.mpr ⟨fun mem => ?_, ih lawful.tail⟩
          have passed := rank_of_mem_numbers passes lawful.tail mem
          have ahead := (passes _ i move picked (lawful.fits found)).1
          omega
        · exact ih lawful.tail
      · exact ih lawful.tail

end Passing

/-- A request is written, or was to be written. -/
def Move.writes : Move → Bool
  | write _ => true
  | _ => false

/-- A response is expected. -/
def Move.expects : Move → Bool
  | expect => true
  | _ => false

theorem passes_writes : Passes Move.writes 3 := by
  intro life i move kind fits
  rw [fits.stage, Life.stage_move]
  cases move with
  | write succeeded => cases succeeded <;> exact ⟨Nat.lt_succ_self 2, Nat.le_refl 3⟩
  | _ => cases kind

theorem passes_expects : Passes Move.expects 2 := by
  intro life i move kind fits
  rw [fits.stage, Life.stage_move]
  cases move with
  | expect => exact ⟨Nat.lt_succ_self 1, Nat.le_refl 2⟩
  | _ => cases kind

/-! ## Who wrote a request -/

/-- A stage is entered by a move. -/
theorem stage_cons (seq : Nat) (history : List Occurrence) (o : Occurrence) :
    (Life.of seq (o :: history)).stage = (Life.of seq history).stage ∨
      ∃ i exchange move, o = .exchanged i exchange ∧ move? exchange = some (seq, move) ∧
        (Life.of seq (o :: history)).stage = move.target i := by
  cases o with
  | ended | died => exact .inl rfl
  | received message =>
    by_cases answers : (Occurrence.received message).Answers seq
    · obtain ⟨_, r, ⟨⟩, response, same⟩ := answers
      rw [Life.of, Life.after_of_answers response same]
      exact .inl rfl
    · rw [Life.of, Life.after_of_not_answers answers]
      exact .inl rfl
  | exchanged i exchange =>
    obtain ⟨move, found, after⟩ | ⟨-, after⟩ := Life.after_exchanged (Life.of seq history) seq i
      exchange
    · refine .inr ⟨i, exchange, move, rfl, found, ?_⟩
      rw [Life.of, after, Life.stage_move]
    · exact .inl (congrArg Life.stage after)

/-- A request that counts as written was written by the thread that waits for its response. -/
theorem written_of_stage {i : Nat} (stage : (Life.of seq history).stage = .written i) :
    ∃ r : Request, .exchanged i ⟨.write r, .ok ()⟩ ∈ history ∧ r.seq = seq := by
  induction history with
  | nil => cases stage
  | cons o earlier ih =>
    rcases stage_cons _ earlier o with same | ⟨j, exchange, move, rfl, found, entered⟩
    · obtain ⟨r, mem, number⟩ := ih (same.symm.trans stage)
      exact ⟨r, List.mem_cons_of_mem _ mem, number⟩
    · rw [stage] at entered
      obtain ⟨rfl, rfl⟩ := Move.of_target_written entered.symm
      obtain ⟨r, rfl, number⟩ := written_of_move? found
      exact ⟨r, List.mem_cons_self, number⟩

/-- A request counts as failed if its thread could not write it. -/
theorem failed_of_stage {i : Nat} (stage : (Life.of seq history).stage = .failed i) :
    ∃ (r : Request) (e : Error), .exchanged i ⟨.write r, .error e⟩ ∈ history ∧ r.seq = seq := by
  induction history with
  | nil => cases stage
  | cons o earlier ih =>
    rcases stage_cons _ earlier o with same | ⟨j, exchange, move, rfl, found, entered⟩
    · obtain ⟨r, e, mem, number⟩ := ih (same.symm.trans stage)
      exact ⟨r, e, List.mem_cons_of_mem _ mem, number⟩
    · rw [stage] at entered
      obtain ⟨rfl, rfl⟩ := Move.of_target_failed entered.symm
      obtain ⟨r, e, rfl, number⟩ := failed_of_move? found
      exact ⟨r, e, List.mem_cons_self, number⟩

/-- A request that could not be written is withdrawn next. -/
theorem stage_of_failed (lawful : Lawful history) {i : Nat} {r : Request} {e : Error}
    (mem : .exchanged i ⟨.write r, .error e⟩ ∈ history) :
    (Life.of r.seq history).stage = .failed i ∨ (Life.of r.seq history).stage = .withdrawn := by
  induction history with
  | nil => cases mem
  | cons o earlier ih =>
    rcases List.mem_cons.mp mem with rfl | mem
    · left
      rw [Life.of, Life.after]
      simp only [move?, if_true, Life.move]
    · have before := ih lawful.tail mem
      rcases stage_cons r.seq earlier o with same | ⟨j, exchange, move, rfl, found, entered⟩
      · rw [same]
        exact before
      · have source := (lawful.fits found).stage
        rw [entered]
        rcases before with before | before <;> rw [before] at source
        · rw [(Move.of_source_failed source.symm).1]
          exact .inr rfl
        · exact absurd source.symm Move.source_ne_withdrawn

end Histories
end NotebookKernel.Dap
