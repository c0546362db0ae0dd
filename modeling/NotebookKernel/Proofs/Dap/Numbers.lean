import NotebookKernel.Proofs.Dap.Lives

/-!
The connection, as the lives of its sequence numbers have it.

`Moves` says once what an exchange can do: to a number, to the connection, and to what the thread
keeps track of. `Numbers` is the invariant: the requests whose response is expected are those whose
number awaits one, the responses that were delivered are those that have arrived, and every thread
is at the numbers that name it. Every exchange, every message and the end of the reader keep it.
-/

namespace NotebookKernel.Dap

/-! ## What an exchange does -/

/-- The stage of a request that a thread is sending. -/
def Progress.stage (i : Nat) : Progress → Stage
  | allocated => .allocated i
  | expected => .expected i
  | failed => .failed i

namespace Move

/-- What has to be under way before a move. -/
def needs : Move → Option Progress
  | expect => some .allocated
  | write _ => some .expected
  | forget => some .failed
  | _ => none

/-- What is under way after it. -/
def leaves : Move → Option Progress
  | allocate => some .allocated
  | expect => some .expected
  | write false => some .failed
  | _ => none

/-- The requests whose response was not waited for. -/
def remaining (n : Nat) (written : List Nat) : Move → List Nat
  | write true => n :: written
  | wait _ => written.erase n
  | _ => written

end Move

/-- What the connection must have for a move with a number. -/
def Connection.Ready (c : Connection) (n : Nat) : Move → Prop
  | .allocate => n = c.nextSeq
  | .wait (some r) => c.delivered.lookup n = some r
  | _ => True

/-- What becomes of the connection. -/
def Connection.moved (c : Connection) (n : Nat) : Move → Connection
  | .allocate => { c with nextSeq := n + 1 }
  | .expect => { c with pending := n :: c.pending }
  | .forget => { c with pending := c.pending.erase n }
  | .wait (some _) => { c with delivered := c.delivered.filter (·.1 ≠ n) }
  | _ => c

/-- What an exchange of a thread can do. -/
inductive Moves (launching : Bool) (c : Connection) (h : Sender) :
    Option (Nat × Move) → Connection → Sender → Prop
  | move {n : Nat} {move : Move} :
    h.sending = move.needs.map (n, ·) → (∀ response, move = .wait response → n ∈ h.written) →
      c.Ready n move →
      Moves launching c h (some (n, move)) (c.moved n move)
        { h with sending := move.leaves.map (n, ·), written := move.remaining n h.written }
  | listen : launching = true →
      Moves launching c h none { c with listening := true, events := [] }
        { h with listening := true }
  | unlisten : h.listening = true →
      Moves launching c h none { c with listening := false, events := [] }
        { h with listening := false }
  | other {d : Connection} : c.Agrees d → Moves launching c h none d h

section Exchanges

variable {launching : Bool} {c d : Connection} {h : Sender} {r : Link.Request}
  {answer : Link.Answer r}

/-- The response to a request is fetched, or nobody expects one. -/
theorem Connection.fetch?_cases {seq : Nat} {response : Option Response}
    (fetched : c.fetch? seq = some (response, d)) :
    c.Ready seq (.wait response) ∧ d = c.moved seq (.wait response) := by
  unfold fetch? at fetched
  split at fetched
  · next r found =>
    cases fetched
    exact ⟨found, rfl⟩
  · split at fetched
    · cases fetched
    · cases fetched
      exact ⟨trivial, rfl⟩

/-- A wait that nothing is under way beside. -/
theorem Moves.wait {seq : Nat} {response : Option Response} (free : h.sending = none)
    (mem : seq ∈ h.written) (ready : c.Ready seq (.wait response)) :
    Moves launching c h (some (seq, .wait response)) (c.moved seq (.wait response))
      { h with written := h.written.erase seq } := by
  have moves : Moves launching c h (some (seq, .wait response)) (c.moved seq (.wait response))
      { h with sending := none, written := h.written.erase seq } :=
    .move free (fun _ _ => mem) ready
  have same : { h with sending := none, written := h.written.erase seq } =
      { h with written := h.written.erase seq } := by
    rw [← free]
  rw [← same]
  exact moves

/-- What the connection answers is one of the moves. -/
theorem moves_of_answer (allowed : h.Allows launching r)
    (answered : c.answer? r = some (answer, d)) :
    Moves launching c h (move? ⟨r, answer⟩) d (h.after ⟨r, answer⟩) := by
  cases r with
  | allocate =>
    cases answered
    exact .move allowed (fun _ same => nomatch same) rfl
  | expect seq =>
    cases answered
    exact .move allowed (fun _ same => nomatch same) trivial
  | forget seq =>
    cases answered
    exact .move allowed (fun _ same => nomatch same) trivial
  | await seq =>
    obtain ⟨ready, rfl⟩ := Connection.fetch?_cases answered
    exact .wait allowed.1 allowed.2 ready
  | awaitInTime seq =>
    obtain ⟨⟨response, e⟩, fetched, same⟩ := Option.map_eq_some_iff.mp answered
    obtain ⟨ready, rfl⟩ := Connection.fetch?_cases fetched
    cases response with
    | none => cases same; exact .wait allowed.1 allowed.2 ready
    | some r => cases same; exact .wait allowed.1 allowed.2 ready
  | listen =>
    cases answered
    exact .listen allowed.2.2
  | unlisten =>
    cases answered
    exact .unlisten allowed.2
  | awaitEvent name =>
    rw [Connection.answer?] at answered
    split at answered
    · cases answered
      exact .other ⟨rfl, rfl, rfl, rfl, rfl⟩
    · split at answered
      · cases answered
      · cases answered
        exact .other (.refl c)
  | takeOutput limit =>
    cases answered
    exact .other ⟨rfl, rfl, rfl, rfl, rfl⟩
  | unreadOutput =>
    cases answered
    exact .other (.refl c)
  | debuggee =>
    cases answered
    exact .other (.refl c)
  | write r => cases answered
  | signal process => cases answered
  | killServer => cases answered
  | log record => cases answered

/-- So is what comes from elsewhere. -/
theorem moves_of_free (allowed : h.Allows launching r) (free : Link.Free r answer) :
    Moves launching c h (move? ⟨r, answer⟩) c (h.after ⟨r, answer⟩) := by
  cases r with
  | write r =>
    cases answer with
    | ok _ => exact .move allowed (fun _ same => nomatch same) trivial
    | error e => exact .move allowed (fun _ same => nomatch same) trivial
  | awaitInTime seq =>
    cases answer with
    | timedOut => exact .wait allowed.1 allowed.2 trivial
    | _ => cases free
  | awaitEvent name => exact .other (.refl c)
  | signal process => exact .other (.refl c)
  | killServer => exact .other (.refl c)
  | log record => exact .other (.refl c)
  | _ => cases free

end Exchanges

/-! ## What threads keep track of -/

/-- A request is being sent by the thread that its stage names, and a thread waits only for
responses to requests it wrote. -/
structure Senders (hold : Nat → Sender) (history : List Occurrence) : Prop where
  sending : ∀ i seq p,
    (hold i).sending = some (seq, p) ↔ (Life.of seq history).stage.sending = some (i, p)
  written : ∀ i, ∀ seq ∈ (hold i).written, (Life.of seq history).stage = .written i
  distinct : ∀ i, (hold i).written.Nodup

section Sending

variable {hold : Nat → Sender} {history : List Occurrence} {exchange : Exchange Link}
  {i n seq : Nat} {move : Move}

theorem Move.sending_source : (move.source i).sending = move.needs.map (i, ·) := by
  cases move <;> rfl

theorem Move.sending_target : (move.target i).sending = move.leaves.map (i, ·) := by
  cases move with
  | write succeeded => cases succeeded <;> rfl
  | _ => rfl

theorem Stage.of_sending {stage : Stage} {p : Progress} (h : stage.sending = some (i, p)) :
    stage = p.stage i := by
  cases stage <;> cases h <;> rfl

theorem Life.of_move (found : move? exchange = some (n, move)) :
    Life.of seq (.exchanged i exchange :: history) =
      if n = seq then (Life.of seq history).move i move else Life.of seq history := by
  rw [Life.of, Life.after, found]

theorem Life.of_still (found : move? exchange = none) :
    Life.of seq (.exchanged i exchange :: history) = Life.of seq history := by
  rw [Life.of, Life.after, found]

/-- Senders stay as they are where no stage changes. -/
theorem Senders.of_same {other : Nat → Sender} {later : List Occurrence}
    (senders : Senders hold history)
    (same : ∀ j, (other j).sending = (hold j).sending ∧ (other j).written = (hold j).written)
    (still : ∀ seq, (Life.of seq later).stage = (Life.of seq history).stage) :
    Senders other later where
  sending i seq p := by
    rw [(same i).1, still]
    exact senders.sending i seq p
  written i seq mem := by
    rw [still]
    exact senders.written i seq ((same i).2 ▸ mem)
  distinct i := by
    rw [(same i).2]
    exact senders.distinct i

/-- A request that one thread sends is not sent by another. -/
theorem Senders.sending_move (senders : Senders hold history)
    (found : move? exchange = some (n, move)) (fits : (Life.of n history).Fits i move)
    (needs : (hold i).sending = move.needs.map (n, ·)) (j : Nat) (p : Progress) (h : Sender)
    (leaves : h.sending = move.leaves.map (n, ·)) :
    (Function.update hold i h j).sending = some (seq, p) ↔
      (Life.of seq (.exchanged i exchange :: history)).stage.sending = some (j, p) := by
  rw [Life.of_move found]
  by_cases number : n = seq
  · subst number
    rw [if_pos rfl, Life.stage_move, Move.sending_target]
    by_cases thread : j = i
    · subst thread
      rw [Function.update_self, leaves]
      cases move.leaves <;> simp
    · have before := senders.sending j n p
      rw [fits.stage, Move.sending_source] at before
      rw [Function.update_of_ne thread, before]
      cases move.needs <;> cases move.leaves <;> simp [Ne.symm thread]
  · rw [if_neg number]
    by_cases thread : j = i
    · subst thread
      rw [Function.update_self, leaves, ← senders.sending, needs]
      cases move.needs <;> cases move.leaves <;> simp [number]
    · rw [Function.update_of_ne thread]
      exact senders.sending j seq p

/-- What one thread wrote, no other waits for. -/
theorem Senders.written_move (senders : Senders hold history)
    (found : move? exchange = some (n, move)) (fits : (Life.of n history).Fits i move)
    (j : Nat) (h : Sender) (remaining : h.written = move.remaining n (hold i).written)
    (mem : seq ∈ (Function.update hold i h j).written) :
    (Life.of seq (.exchanged i exchange :: history)).stage = .written j := by
  rw [Life.of_move found]
  by_cases thread : j = i
  · subst thread
    rw [Function.update_self, remaining] at mem
    by_cases number : n = seq
    · subst number
      rw [if_pos rfl, Life.stage_move]
      have source : n ∈ (hold j).written → move.source j = .written j := fun mem => by
        rw [← fits.stage]
        exact senders.written j n mem
      cases move with
      | write succeeded =>
        cases succeeded with
        | true => rfl
        | false => nomatch source mem
      | wait response => exact absurd mem (senders.distinct j).not_mem_erase
      | _ => nomatch source mem
    · rw [if_neg number]
      refine senders.written j seq ?_
      cases move with
      | write succeeded =>
        cases succeeded with
        | true => exact List.mem_of_ne_of_mem (Ne.symm number) mem
        | false => exact mem
      | wait response => exact List.mem_of_mem_erase mem
      | _ => exact mem
  · rw [Function.update_of_ne thread] at mem
    have stage := senders.written j seq mem
    by_cases number : n = seq
    · subst number
      rw [fits.stage] at stage
      cases move <;> cases stage
      exact absurd rfl thread
    · rw [if_neg number]
      exact stage

theorem Senders.moved (senders : Senders hold history)
    (found : move? exchange = some (n, move)) (fits : (Life.of n history).Fits i move)
    (needs : (hold i).sending = move.needs.map (n, ·)) {h : Sender}
    (leaves : h.sending = move.leaves.map (n, ·))
    (remaining : h.written = move.remaining n (hold i).written) :
    Senders (Function.update hold i h) (.exchanged i exchange :: history) where
  sending j seq p := senders.sending_move found fits needs j p h leaves
  written j seq mem := senders.written_move found fits j h remaining mem
  distinct j := by
    by_cases thread : j = i
    · subst thread
      rw [Function.update_self, remaining]
      have before := senders.distinct j
      cases move with
      | write succeeded =>
        cases succeeded with
        | true =>
          refine List.nodup_cons.mpr ⟨fun mem => ?_, before⟩
          have stage := senders.written j n mem
          rw [fits.stage] at stage
          cases stage
        | false => exact before
      | wait response => exact before.erase n
      | _ => exact before
    · rw [Function.update_of_ne thread]
      exact senders.distinct j

end Sending

/-! ## What the connection keeps -/

/-- Numbers are free from the next one on, the requests that are pending are those that await a
response, and the responses that were delivered are those that have arrived. -/
structure Table (c : Connection) (history : List Occurrence) : Prop where
  fresh : ∀ seq, c.nextSeq ≤ seq → (Life.of seq history).stage = .fresh
  distinct : c.pending.Nodup
  pending : ∀ seq, seq ∈ c.pending ↔ (Life.of seq history).reply = .awaited
  delivered : ∀ seq, c.delivered.lookup seq = (Life.of seq history).reply.waiting

theorem lookup_filter_ne (n seq : Nat) (delivered : List (Nat × Response)) :
    (delivered.filter (·.1 ≠ n)).lookup seq = if seq = n then none else delivered.lookup seq := by
  induction delivered with
  | nil => simp
  | cons entry rest ih =>
    obtain ⟨m, r⟩ := entry
    rw [List.filter_cons]
    by_cases other : m = n
    · subst other
      by_cases here : seq = m
      · simpa [here] using ih
      · have skip : (seq == m) = false := beq_false_of_ne here
        simpa [List.lookup_cons, skip, here] using ih
    · by_cases here : seq = m
      · subst here
        simp [other]
      · have skip : (seq == m) = false := beq_false_of_ne here
        simpa [List.lookup_cons, skip, other] using ih

section Tables

variable {c d : Connection} {history later : List Occurrence} {exchange : Exchange Link}
  {i n seq : Nat} {move : Move}

theorem Table.of_same (table : Table c history) (nextSeq : d.nextSeq = c.nextSeq)
    (pending : d.pending = c.pending) (delivered : d.delivered = c.delivered)
    (still : ∀ seq, Life.of seq later = Life.of seq history) : Table d later where
  fresh seq free := by
    rw [nextSeq] at free
    rw [still]
    exact table.fresh seq free
  distinct := by
    rw [pending]
    exact table.distinct
  pending seq := by
    rw [still, pending]
    exact table.pending seq
  delivered seq := by
    rw [still, delivered]
    exact table.delivered seq

/-- A thread makes only moves that fit. -/
theorem Table.fits {hold : Nat → Sender} (table : Table c history) (senders : Senders hold history)
    (lawful : Lawful history) (needs : (hold i).sending = move.needs.map (n, ·))
    (waits : ∀ response, move = .wait response → n ∈ (hold i).written) (ready : c.Ready n move) :
    (Life.of n history).Fits i move := by
  have stage : ∀ {p : Progress}, (hold i).sending = some (n, p) →
      (Life.of n history).stage = p.stage i :=
    fun under => Stage.of_sending ((senders.sending i n _).mp under)
  have blank : ∀ {s : Stage}, (Life.of n history).stage = s → s.rank ≤ 1 →
      Life.of n history = ⟨s, .unexpected⟩ := by
    rintro s rfl early
    rw [← lawful.reply_of_rank early]
  cases move with
  | allocate => exact blank (table.fresh n (Nat.le_of_eq ready.symm)) (Nat.zero_le 1)
  | expect => exact blank (stage needs) (Nat.le_refl 1)
  | write succeeded => exact stage needs
  | forget => exact stage needs
  | wait response =>
    have written := senders.written i n (waits response rfl)
    cases response with
    | none => exact written
    | some r =>
      have reply := Reply.of_waiting ((table.delivered n).symm.trans ready)
      change Life.of n history = ⟨.written i, .arrived r⟩
      rw [← written, ← reply]

theorem Connection.nextSeq_le_moved (ready : c.Ready n move) :
    c.nextSeq ≤ (c.moved n move).nextSeq := by
  cases move with
  | allocate =>
    obtain rfl : n = c.nextSeq := ready
    exact Nat.le_succ _
  | wait response => cases response <;> exact Nat.le_refl _
  | _ => exact Nat.le_refl _

/-- What a move with one number leaves of the others. -/
theorem Connection.mem_pending_moved (other : n ≠ seq) :
    seq ∈ (c.moved n move).pending ↔ seq ∈ c.pending := by
  cases move with
  | expect =>
    refine ⟨fun mem => ?_, List.mem_cons_of_mem n⟩
    exact List.mem_of_ne_of_mem (Ne.symm other) mem
  | forget => exact List.mem_erase_of_ne (Ne.symm other)
  | wait response => cases response <;> exact Iff.rfl
  | _ => exact Iff.rfl

theorem Connection.lookup_delivered_moved (other : n ≠ seq) :
    (c.moved n move).delivered.lookup seq = c.delivered.lookup seq := by
  cases move with
  | wait response =>
    cases response with
    | none => rfl
    | some r =>
      change (c.delivered.filter (·.1 ≠ n)).lookup seq = _
      rw [lookup_filter_ne, if_neg (Ne.symm other)]
  | _ => rfl

/-- A move that fits keeps the connection as the history tells. -/
theorem Table.moved (table : Table c history) (found : move? exchange = some (n, move))
    (fits : (Life.of n history).Fits i move) (ready : c.Ready n move) :
    Table (c.moved n move) (.exchanged i exchange :: history) where
  fresh seq free := by
    have older := Nat.le_trans (Connection.nextSeq_le_moved ready) free
    have other : n ≠ seq := by
      rintro rfl
      have source := fits.stage
      rw [table.fresh n older] at source
      obtain rfl := Move.of_source_fresh source.symm
      exact Nat.not_succ_le_self _ free
    rw [Life.of_move found, if_neg other]
    exact table.fresh seq older
  distinct := by
    cases move with
    | expect =>
      refine List.nodup_cons.mpr ⟨fun mem => ?_, table.distinct⟩
      have awaited := (table.pending n).mp mem
      have unexpected : Life.of n history = ⟨.allocated i, .unexpected⟩ := fits
      rw [unexpected] at awaited
      cases awaited
    | forget => exact table.distinct.erase n
    | wait response => cases response <;> exact table.distinct
    | _ => exact table.distinct
  pending seq := by
    rw [Life.of_move found]
    by_cases number : n = seq
    · subst number
      rw [if_pos rfl]
      cases move with
      | expect => exact iff_of_true List.mem_cons_self rfl
      | forget => exact iff_of_false table.distinct.not_mem_erase (Reply.lapse_ne_awaited _)
      | write succeeded => cases succeeded <;> exact table.pending n
      | allocate => exact table.pending n
      | wait response =>
        cases response with
        | none => exact table.pending n
        | some r =>
          have arrived : Life.of n history = ⟨.written i, .arrived r⟩ := fits
          refine iff_of_false (fun mem => ?_) fun fetched => (nomatch fetched)
          have awaited := (table.pending n).mp mem
          rw [arrived] at awaited
          cases awaited
    · rw [if_neg number, Connection.mem_pending_moved number]
      exact table.pending seq
  delivered seq := by
    rw [Life.of_move found]
    by_cases number : n = seq
    · subst number
      rw [if_pos rfl]
      cases move with
      | expect =>
        have unexpected : Life.of n history = ⟨.allocated i, .unexpected⟩ := fits
        refine (table.delivered n).trans ?_
        rw [unexpected]
        rfl
      | forget => exact (table.delivered n).trans (Reply.waiting_lapse _).symm
      | write succeeded => cases succeeded <;> exact table.delivered n
      | allocate => exact table.delivered n
      | wait response =>
        cases response with
        | none => exact table.delivered n
        | some r =>
          change (c.delivered.filter (·.1 ≠ n)).lookup n = none
          rw [lookup_filter_ne, if_pos rfl]
    · rw [if_neg number, Connection.lookup_delivered_moved number]
      exact table.delivered seq

/-- A message keeps it so, whatever it says. -/
theorem Table.received (table : Table c history) (message : Json) :
    Table (c.deliver message).1 (.received message :: history) := by
  by_cases expected : ∃ r, Message.ofJson? message = some (.response r) ∧
      ∃ seq ∈ c.pending, (seq : Int) = r.requestSeq
  · obtain ⟨r, response, n, mem, same⟩ := expected
    have awaited := (table.pending n).mp mem
    have here : Life.of n (.received message :: history) =
        { Life.of n history with reply := .arrived r } := by
      rw [Life.of, Life.after_of_answers response same, awaited]
      rfl
    have others : ∀ seq, seq ≠ n →
        Life.of seq (.received message :: history) = Life.of seq history := by
      intro seq other
      rw [Life.of, Life.after]
      simp only [response]
      exact if_neg fun match_ => other (Int.ofNat.inj (match_.trans same.symm))
    rw [Connection.deliver_response response mem same]
    refine ⟨fun seq free => ?_, table.distinct.erase n, fun seq => ?_, fun seq => ?_⟩
    · have fresh := table.fresh seq free
      by_cases number : seq = n
      · subst number
        rw [here]
        exact fresh
      · rw [others seq number]
        exact fresh
    · by_cases number : seq = n
      · subst number
        rw [here]
        exact iff_of_false table.distinct.not_mem_erase fun same => by cases same
      · rw [others seq number]
        exact (List.mem_erase_of_ne number).trans (table.pending seq)
    · rw [List.lookup_append, table.delivered]
      by_cases number : seq = n
      · subst number
        rw [here, awaited]
        simp [Reply.waiting]
      · have skip : (seq == n) = false := beq_false_of_ne number
        rw [others seq number]
        simp [List.lookup_cons, skip]
  · have unknown : ∀ r, Message.ofJson? message = some (.response r) →
        ∀ seq ∈ c.pending, (seq : Int) ≠ r.requestSeq :=
      fun r response seq mem same => expected ⟨r, response, seq, mem, same⟩
    have agrees := Connection.deliver_agrees unknown
    refine table.of_same agrees.nextSeq agrees.pending agrees.delivered fun seq => ?_
    by_cases answers : (Occurrence.received message).Answers seq
    · obtain ⟨_, r, ⟨⟩, response, same⟩ := answers
      have nobody : (Life.of seq history).reply ≠ .awaited := fun awaited =>
        unknown r response seq ((table.pending seq).mpr awaited) same
      rw [Life.of, Life.after_of_answers response same, Reply.arrive_of_ne_awaited nobody]
    · rw [Life.of, Life.after_of_not_answers answers]

/-- So does the end of the reader. -/
theorem Table.hungUp (table : Table c history) : Table c.hangUp (.ended :: history) where
  fresh seq free := table.fresh seq free
  distinct := List.nodup_nil
  pending _ := iff_of_false List.not_mem_nil (Reply.lapse_ne_awaited _)
  delivered seq := (table.delivered seq).trans (Reply.waiting_lapse _).symm

end Tables

/-! ## Connection and threads together -/

/-- The connection and its threads are as the history tells. -/
structure Told (c : Connection) (hold : Nat → Sender) (history : List Occurrence) : Prop where
  lawful : Lawful history
  senders : Senders hold history
  table : Table c history

namespace Told

variable {c d : Connection} {hold other : Nat → Sender} {history : List Occurrence} {i : Nat}
  {exchange : Exchange Link}

theorem moved {n : Nat} {move : Move} {h : Sender} (told : Told c hold history)
    (found : move? exchange = some (n, move)) (needs : (hold i).sending = move.needs.map (n, ·))
    (waits : ∀ response, move = .wait response → n ∈ (hold i).written) (ready : c.Ready n move)
    (leaves : h.sending = move.leaves.map (n, ·))
    (remaining : h.written = move.remaining n (hold i).written) :
    Told (c.moved n move) (Function.update hold i h) (.exchanged i exchange :: history) := by
  have fits := told.table.fits told.senders told.lawful needs waits ready
  refine ⟨.cons told.lawful ?_, told.senders.moved found fits needs leaves remaining,
    told.table.moved found fits ready⟩
  intro j e m what same made
  cases same
  cases found.symm.trans made
  exact fits

/-- An exchange that is about no number changes nothing here. -/
theorem still (told : Told c hold history) (found : move? exchange = none)
    (same : ∀ j, (other j).sending = (hold j).sending ∧ (other j).written = (hold j).written)
    (nextSeq : d.nextSeq = c.nextSeq) (pending : d.pending = c.pending)
    (delivered : d.delivered = c.delivered) :
    Told d other (.exchanged i exchange :: history) := by
  refine ⟨.cons told.lawful ?_, told.senders.of_same same fun seq => ?_,
    told.table.of_same nextSeq pending delivered fun seq => Life.of_still found⟩
  · intro j e m what same made
    cases same
    cases found.symm.trans made
  · rw [Life.of_still found]

theorem received (told : Told c hold history) (message : Json) :
    Told (c.deliver message).1 hold (.received message :: history) := by
  refine ⟨.cons told.lawful fun _ _ _ _ same => (nomatch same),
    told.senders.of_same (fun _ => ⟨rfl, rfl⟩) fun seq => ?_, told.table.received message⟩
  rw [Life.of, Life.after]
  split
  · split <;> rfl
  · rfl

theorem hungUp (told : Told c hold history) : Told c.hangUp hold (.ended :: history) :=
  ⟨.cons told.lawful fun _ _ _ _ same => (nomatch same),
    told.senders.of_same (fun _ => ⟨rfl, rfl⟩) fun _ => rfl, told.table.hungUp⟩

/-- Its death drops nothing. -/
theorem died (told : Told c hold history) : Told c.die hold (.died :: history) :=
  ⟨.cons told.lawful fun _ _ _ _ same => (nomatch same),
    told.senders.of_same (fun _ => ⟨rfl, rfl⟩) fun _ => rfl,
    told.table.of_same rfl rfl rfl fun _ => rfl⟩

end Told
end NotebookKernel.Dap
